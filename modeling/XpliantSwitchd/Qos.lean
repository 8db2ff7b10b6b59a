import XpliantSwitchd.Basic
import Mathlib.Algebra.GroupWithZero.Nat
import Mathlib.Data.List.Basic

/-!
# QoS settings of a bundle

This module embeds the functions of `ops-xp-qos.c` that program the ports of a
bundle.  Each port takes one or two steps, each step is a sequence of calls of the
XDK that ends at the first failure, and the result of a step replaces the result of
the step before it.
-/

namespace XpliantSwitchd
namespace Qos

/-- `enum qos_trust`. -/
inductive QosTrust
  | none | cos | dscp | other (code : Nat)
  deriving DecidableEq

/-- `struct qos_port_settings`. -/
structure QosPortSettings where
  qosTrust : QosTrust
  dscpOverrideEnable : Bool
  dscpOverrideValue : Nat
  deriving DecidableEq

/-- `enum schedule_algorithm`. -/
inductive Algorithm
  | strict | dwrr | other (code : Nat)
  deriving DecidableEq

/-- `struct schedule_profile_entry`. -/
structure ScheduleEntry where
  queue : Nat
  algorithm : Algorithm
  weight : Nat
  deriving DecidableEq

/-- `struct queue_profile_entry`. -/
structure QueueEntry where
  queue : Nat
  localPriorities : List Nat
  deriving DecidableEq

/-- `OPS_QOS_DEFAULT_PROFILE_ID`. -/
def defaultProfileId : Nat := 1

/-- The calls of the XDK with their arguments, without the device. -/
inductive Call
  | setL2QosProfileForPort (port profileId : Nat) (enable : Bool)
  | setL3QosProfileForPort (port profileId : Nat) (enable : Bool)
  | setTrustL2ForPort (port : Nat)
  | setTrustL3ForPort (port : Nat)
  | setPortDefaultL3QosPriority (port value : Nat)
  | getTrafficClassForL3QosProfile (profileId value : Nat)
  | getDropPrecedenceForL3QosProfile (profileId value : Nat)
  | setPortDefaultTrafficClass (port tc : Nat)
  | setPortDefaultDropPrecedence (port dp : Nat)
  | setQueueSchedulerSP (port queue : Nat)
  | setQueueSchedulerDWRRWeight (port queue weight : Nat)
  | setQueueSchedulerDWRR (port queue : Nat)
  | getQmapTableIndex (port localPriority : Nat)
  | getQueueAbsoluteNumber (port queue : Nat)
  | setQueueAtQmapIndex (qmapIdx queueLoc absQNum : Nat)
  | setQueueSchedulerSPPriority (port queue localPriority : Nat)
  deriving DecidableEq

/-- The answers of the XDK in one step, by the number of the call in it: whether the
call succeeds, and what it returns through pointers. -/
structure Answers where
  succeeds : Nat → Bool
  value : Nat → Nat × Nat

/-- The result of a step and the calls that it made. -/
abbrev Made := Option Errno × List Call

/-- Make a call, and go on when it succeeds. -/
def attempt (answers : Answers) (call : Call) (made : List Call)
    (next : List Call → Made) : Made :=
  if answers.succeeds made.length then next (made ++ [call])
  else (some .EFAULT, made ++ [call])

/-- `qos_set_port_qos_trust`. -/
def setPortQosTrust (answers : Answers) (port : Nat) (trust : QosTrust) : Made :=
  match trust with
  | .none =>
      attempt answers (.setL2QosProfileForPort port defaultProfileId true) [] fun made =>
      attempt answers (.setL3QosProfileForPort port defaultProfileId true) made fun made =>
      (none, made)
  | .cos => attempt answers (.setTrustL2ForPort port) [] fun made => (none, made)
  | .dscp => attempt answers (.setTrustL3ForPort port) [] fun made => (none, made)
  | .other _ => (some .EINVAL, [])

/-- `qos_set_port_dscp_override`. -/
def setPortDscpOverride (answers : Answers) (port value : Nat) : Made :=
  attempt answers (.setPortDefaultL3QosPriority port value) [] fun made =>
  attempt answers (.getTrafficClassForL3QosProfile defaultProfileId value) made fun made =>
  attempt answers (.getDropPrecedenceForL3QosProfile defaultProfileId value) made fun made =>
  attempt answers (.setPortDefaultTrafficClass port (answers.value 1).1) made fun made =>
  attempt answers (.setPortDefaultDropPrecedence port (answers.value 2).1) made fun made =>
  (none, made)

/-- `qos_apply_port_schedule_profile`. -/
def applyPortScheduleProfile (answers : Answers) (port : Nat) :
    List ScheduleEntry → List Call → Made
  | [], made => (none, made)
  | entry :: entries, made =>
      match entry.algorithm with
      | .strict =>
          attempt answers (.setQueueSchedulerSP port entry.queue) made fun made =>
          applyPortScheduleProfile answers port entries made
      | .dwrr =>
          attempt answers (.setQueueSchedulerDWRRWeight port entry.queue entry.weight) made
            fun made =>
          attempt answers (.setQueueSchedulerDWRR port entry.queue) made fun made =>
          applyPortScheduleProfile answers port entries made
      | .other _ => (some .EOPNOTSUPP, made)

/-- The inner loop of `qos_apply_port_queue_profile`. -/
def applyLocalPriorities (answers : Answers) (port queue : Nat) :
    List Nat → List Call → (List Call → Made) → Made
  | [], made, next => next made
  | localPriority :: localPriorities, made, next =>
      let (qmapIdx, queueLoc) := answers.value made.length
      let absQNum := (answers.value (made.length + 1)).1
      attempt answers (.getQmapTableIndex port localPriority) made fun made =>
      attempt answers (.getQueueAbsoluteNumber port queue) made fun made =>
      attempt answers (.setQueueAtQmapIndex qmapIdx queueLoc absQNum) made fun made =>
      attempt answers (.setQueueSchedulerSPPriority port queue localPriority) made fun made =>
      applyLocalPriorities answers port queue localPriorities made next

/-- `qos_apply_port_queue_profile`. -/
def applyPortQueueProfile (answers : Answers) (port : Nat) :
    List QueueEntry → List Call → Made
  | [], made => (none, made)
  | entry :: entries, made =>
      applyLocalPriorities answers port entry.queue entry.localPriorities made fun made =>
      applyPortQueueProfile answers port entries made

/-- The result of a step replaces the one before. -/
def Made.followedBy (before next : Made) : Made :=
  (next.1, before.2 ++ next.2)

/-- The loop of `ops_xp_qos_set_port_qos_cfg` over the ports of a bundle, which are
counted from `position` on. -/
def portsLoop (program : Nat → Nat → Made) : List Nat → Nat → Made → Made
  | [], _, result => result
  | port :: ports, position, result =>
      portsLoop program ports (position + 1) (result.followedBy (program position port))

/-- `ops_xp_qos_set_port_qos_cfg`, on the ports of the bundle that was looked up.
The answers go by the place of the port in the bundle. -/
def setPortQosCfg (xdk : Nat → Answers) (bundle : Option (List Nat))
    (settings : QosPortSettings) : Made :=
  match bundle with
  | none => (none, [])
  | some ports =>
      if !settings.dscpOverrideEnable then
        portsLoop (fun position port =>
          setPortQosTrust (xdk position) port settings.qosTrust) ports 0 (none, [])
      else
        portsLoop (fun position port =>
          setPortDscpOverride (xdk position) port settings.dscpOverrideValue) ports 0 (none, [])

/-- The two profiles of a port. -/
inductive Profile
  | schedule | queue
  deriving DecidableEq

/-- The loop of `ops_xp_qos_apply_qos_profile`. -/
def profilesLoop (xdk : Nat → Profile → Answers) (schedule : Option (List ScheduleEntry))
    (queue : Option (List QueueEntry)) : List Nat → Nat → Made → Made
  | [], _, result => result
  | port :: ports, position, result =>
      match schedule with
      | none => (some .EOPNOTSUPP, result.2)
      | some entries =>
          let result := result.followedBy
            (applyPortScheduleProfile (xdk position .schedule) port entries [])
          let result :=
            match queue with
            | none => result
            | some entries => result.followedBy
                (applyPortQueueProfile (xdk position .queue) port entries [])
          profilesLoop xdk schedule queue ports (position + 1) result

/-- `ops_xp_qos_apply_qos_profile`.  `given` says that neither of the two pointers is
null. -/
def applyQosProfile (xdk : Nat → Profile → Answers) (given : Bool)
    (bundle : Option (List Nat)) (schedule : Option (List ScheduleEntry))
    (queue : Option (List QueueEntry)) : Made :=
  if !given then (some .EOPNOTSUPP, [])
  else
    match bundle with
    | none => (none, [])
    | some ports => profilesLoop xdk schedule queue ports 0 (none, [])

/-! ## Steps -/

/-- The calls of a step from the one with number `start` on succeed. -/
def Answers.Accepts (answers : Answers) (start number : Nat) : Prop :=
  ∀ offset < number, answers.succeeds (start + offset) = true

/-- The trust can be programmed, and every call for it succeeds. -/
def TrustProgrammed (answers : Answers) : QosTrust → Prop
  | .none => answers.Accepts 0 2
  | .cos => answers.Accepts 0 1
  | .dscp => answers.Accepts 0 1
  | .other _ => False

/-- A schedule algorithm that the code supports. -/
def Algorithm.Supported : Algorithm → Prop
  | .other _ => False
  | _ => True

/-- The number of calls for an entry of a schedule profile. -/
def ScheduleEntry.callCount (entry : ScheduleEntry) : Nat :=
  if entry.algorithm = .dwrr then 2 else 1

/-- The number of calls for an entry of a queue profile. -/
def QueueEntry.callCount (entry : QueueEntry) : Nat :=
  4 * entry.localPriorities.length

/-- Every entry is supported and every call for the profile succeeds. -/
def ScheduleProgrammed (answers : Answers) (entries : List ScheduleEntry) : Prop :=
  (∀ entry ∈ entries, entry.algorithm.Supported) ∧
    answers.Accepts 0 (entries.map (·.callCount)).sum

/-- Every call for the profile succeeds. -/
def QueueProgrammed (answers : Answers) (entries : List QueueEntry) : Prop :=
  answers.Accepts 0 (entries.map (·.callCount)).sum

section Step

variable {answers : Answers}

theorem accepts_zero (start : Nat) : answers.Accepts start 0 := by
  intro offset below
  omega

theorem accepts_succ {start number : Nat} :
    answers.Accepts start (number + 1) ↔
      answers.succeeds start = true ∧ answers.Accepts (start + 1) number := by
  constructor
  · intro accepts
    refine ⟨accepts 0 (by omega), ?_⟩
    intro offset below
    have later := accepts (offset + 1) (by omega)
    rw [← Nat.add_assoc, Nat.add_right_comm] at later
    exact later
  · rintro ⟨first, later⟩ offset below
    cases offset with
    | zero => exact first
    | succ offset =>
        have accepted := later offset (by omega)
        rw [Nat.add_right_comm] at accepted
        exact accepted

/-- A step returns zero when the call succeeds and the rest returns zero. -/
theorem attempt_eq_none_iff {call : Call} {made : List Call} {next : List Call → Made} :
    (attempt answers call made next).1 = none ↔
      answers.succeeds made.length = true ∧ (next (made ++ [call])).1 = none := by
  unfold attempt
  split
  · rename_i succeeds
    simp [succeeds]
  · rename_i fails
    simp [fails]

theorem setPortQosTrust_eq_none_iff {port : Nat} {trust : QosTrust} :
    (setPortQosTrust answers port trust).1 = none ↔ TrustProgrammed answers trust := by
  unfold setPortQosTrust TrustProgrammed
  cases trust <;> simp [attempt_eq_none_iff, accepts_succ, accepts_zero]

theorem setPortDscpOverride_eq_none_iff {port value : Nat} :
    (setPortDscpOverride answers port value).1 = none ↔ answers.Accepts 0 5 := by
  unfold setPortDscpOverride
  simp [attempt_eq_none_iff, accepts_succ, accepts_zero]

theorem applyPortScheduleProfile_eq_none_iff
    {port : Nat}
    {entries : List ScheduleEntry}
    {made : List Call} :
    (applyPortScheduleProfile answers port entries made).1 = none ↔
      (∀ entry ∈ entries, entry.algorithm.Supported) ∧
        answers.Accepts made.length (entries.map (·.callCount)).sum := by
  induction entries generalizing made with
  | nil => simp [applyPortScheduleProfile, accepts_zero]
  | cons entry entries inductionHypothesis =>
      rw [applyPortScheduleProfile, List.forall_mem_cons, List.map_cons, List.sum_cons]
      cases algorithm : entry.algorithm with
      | strict =>
          have calls : entry.callCount = 1 := by simp [ScheduleEntry.callCount, algorithm]
          have supported : Algorithm.strict.Supported := trivial
          simp only [attempt_eq_none_iff, inductionHypothesis, List.length_append,
            List.length_singleton]
          rw [calls, Nat.add_comm 1, accepts_succ, and_iff_right supported]
          exact and_left_comm
      | dwrr =>
          have calls : entry.callCount = 2 := by simp [ScheduleEntry.callCount, algorithm]
          have supported : Algorithm.dwrr.Supported := trivial
          simp only [attempt_eq_none_iff, inductionHypothesis, List.length_append,
            List.length_singleton]
          rw [calls, Nat.add_comm 2, accepts_succ, accepts_succ, and_iff_right supported]
          constructor
          · rintro ⟨first, second, others, later⟩
            exact ⟨others, first, second, later⟩
          · rintro ⟨others, first, second, later⟩
            exact ⟨first, second, others, later⟩
      | other code =>
          apply iff_of_false
          · exact Option.some_ne_none _
          · rintro ⟨⟨unsupported, _⟩, _⟩
            exact unsupported

/-- The inner loop makes four calls for each local priority. -/
theorem applyLocalPriorities_spec
    {port queue : Nat}
    {localPriorities : List Nat}
    {made : List Call}
    {next : List Call → Made} :
    ∃ after : List Call, after.length = made.length + 4 * localPriorities.length ∧
      ((applyLocalPriorities answers port queue localPriorities made next).1 = none ↔
        answers.Accepts made.length (4 * localPriorities.length) ∧ (next after).1 = none) := by
  induction localPriorities generalizing made with
  | nil =>
      refine ⟨made, rfl, ?_⟩
      rw [applyLocalPriorities, List.length_nil, Nat.mul_zero]
      exact (and_iff_right (accepts_zero _)).symm
  | cons localPriority localPriorities inductionHypothesis =>
      rw [applyLocalPriorities]
      obtain ⟨after, length, returns⟩ := @inductionHypothesis
        (made ++ [.getQmapTableIndex port localPriority] ++
          [.getQueueAbsoluteNumber port queue] ++
          [.setQueueAtQmapIndex (answers.value made.length).1 (answers.value made.length).2
            (answers.value (made.length + 1)).1] ++
          [.setQueueSchedulerSPPriority port queue localPriority])
      refine ⟨after, ?_, ?_⟩
      · rw [length]
        simp only [List.length_append, List.length_cons, List.length_nil]
        omega
      · simp only [attempt_eq_none_iff, returns, List.length_append, List.length_cons,
          List.length_nil, Nat.mul_succ, accepts_succ, and_assoc]

theorem accepts_add {start number more : Nat} :
    answers.Accepts start (number + more) ↔
      answers.Accepts start number ∧ answers.Accepts (start + number) more := by
  induction number generalizing start with
  | zero => simp [accepts_zero]
  | succ number inductionHypothesis =>
      rw [Nat.add_right_comm, accepts_succ, accepts_succ, inductionHypothesis, and_assoc,
        Nat.add_right_comm start 1, Nat.add_assoc start number 1]

theorem applyPortQueueProfile_eq_none_iff
    {port : Nat}
    {entries : List QueueEntry}
    {made : List Call} :
    (applyPortQueueProfile answers port entries made).1 = none ↔
      answers.Accepts made.length (entries.map (·.callCount)).sum := by
  induction entries generalizing made with
  | nil => simp [applyPortQueueProfile, accepts_zero]
  | cons entry entries inductionHypothesis =>
      rw [applyPortQueueProfile, List.map_cons, List.sum_cons, accepts_add]
      obtain ⟨after, length, returns⟩ := @applyLocalPriorities_spec answers port entry.queue
        entry.localPriorities made fun made => applyPortQueueProfile answers port entries made
      rw [returns, inductionHypothesis, length]
      rfl

end Step

/-! ## Bundles -/

/-- The port gets the trust, or the DSCP override, that the settings ask for. -/
def CfgProgrammed (answers : Answers) (settings : QosPortSettings) : Prop :=
  if !settings.dscpOverrideEnable then TrustProgrammed answers settings.qosTrust
  else answers.Accepts 0 5

/-- The steps of a port: its place in the bundle, and the profile. -/
def portSteps (queue : Option (List QueueEntry)) (position : Nat) : List (Nat × Profile) :=
  if queue.isSome then [(position, .schedule), (position, .queue)]
  else [(position, .schedule)]

/-- A step of a port succeeds. -/
def ProfileProgrammed (xdk : Nat → Profile → Answers) (schedule : List ScheduleEntry)
    (queue : Option (List QueueEntry)) (step : Nat × Profile) : Prop :=
  match step.2 with
  | .schedule => ScheduleProgrammed (xdk step.1 .schedule) schedule
  | .queue => ∀ entries ∈ queue, QueueProgrammed (xdk step.1 .queue) entries

/-- Every step but the last one succeeds, or the last one fails. -/
def LastReports {Step : Type} (succeeds : Step → Prop) (steps : List Step) : Prop :=
  (∀ step ∈ steps.dropLast, succeeds step) ∨ ∃ step ∈ steps.getLast?, ¬succeeds step

/-- The result of the last step tells whether all steps succeeded if and only if no
step before it fails alone. -/
theorem overwritten_iff {Step : Type} (succeeds : Step → Prop) (steps : List Step) :
    ((steps.foldl (fun _ step => succeeds step) True) ↔ ∀ step ∈ steps, succeeds step) ↔
      LastReports succeeds steps := by
  unfold LastReports
  rcases List.eq_nil_or_concat steps with rfl | ⟨front, last, rfl⟩
  · simp
  · rw [List.concat_eq_append, List.foldl_append, List.dropLast_concat,
      List.getLast?_concat, List.forall_mem_append]
    simp only [List.foldl_cons, List.foldl_nil, List.forall_mem_singleton,
      Option.mem_some_iff, exists_eq_left']
    by_cases lastSucceeds : succeeds last
    · simp [lastSucceeds]
    · simp [lastSucceeds]

/-- The loop over the ports returns the result of the last one. -/
theorem portsLoop_eq_none_iff
    {program : Nat → Nat → Made}
    {succeeds : Nat → Prop}
    (returns : ∀ position port, (program position port).1 = none ↔ succeeds position)
    (ports : List Nat)
    (position : Nat)
    (result : Made) :
    (portsLoop program ports position result).1 = none ↔
      (List.range' position ports.length).foldl (fun _ position => succeeds position)
        (result.1 = none) := by
  induction ports generalizing position result with
  | nil => exact Iff.rfl
  | cons port ports inductionHypothesis =>
      rw [portsLoop, inductionHypothesis, List.length_cons, List.range'_succ, List.foldl_cons]
      have replaced : ((result.followedBy (program position port)).1 = none) =
          succeeds position :=
        propext (returns position port)
      rw [replaced]

theorem setPortQosCfg_eq_none_iff
    (xdk : Nat → Answers)
    (ports : List Nat)
    (settings : QosPortSettings) :
    (setPortQosCfg xdk (some ports) settings).1 = none ↔
      (List.range ports.length).foldl
        (fun _ position => CfgProgrammed (xdk position) settings) True := by
  rw [List.range_eq_range']
  unfold setPortQosCfg CfgProgrammed
  simp only
  split
  · have returns := @portsLoop_eq_none_iff
      (fun position port => setPortQosTrust (xdk position) port settings.qosTrust)
      (fun position => TrustProgrammed (xdk position) settings.qosTrust)
      (fun _ _ => setPortQosTrust_eq_none_iff) ports 0 (none, [])
    simpa only [eq_self] using returns
  · have returns := @portsLoop_eq_none_iff
      (fun position port => setPortDscpOverride (xdk position) port settings.dscpOverrideValue)
      (fun position => (xdk position).Accepts 0 5)
      (fun _ _ => setPortDscpOverride_eq_none_iff) ports 0 (none, [])
    simpa only [eq_self] using returns

/-- The loop over the ports returns the result of the last profile of the last
port. -/
theorem profilesLoop_eq_none_iff
    (xdk : Nat → Profile → Answers)
    (schedule : List ScheduleEntry)
    (queue : Option (List QueueEntry))
    (ports : List Nat)
    (position : Nat)
    (result : Made) :
    (profilesLoop xdk (some schedule) queue ports position result).1 = none ↔
      ((List.range' position ports.length).flatMap (portSteps queue)).foldl
        (fun _ step => ProfileProgrammed xdk schedule queue step) (result.1 = none) := by
  induction ports generalizing position result with
  | nil => exact Iff.rfl
  | cons port ports inductionHypothesis =>
      simp only [profilesLoop]
      rw [inductionHypothesis, List.length_cons, List.range'_succ, List.flatMap_cons,
        List.foldl_append]
      cases queue with
      | none =>
          have replaced : ((result.followedBy (applyPortScheduleProfile
              (xdk position .schedule) port schedule [])).1 = none) =
              ProfileProgrammed xdk schedule none (position, .schedule) :=
            propext applyPortScheduleProfile_eq_none_iff
          simp only [replaced, portSteps, Option.isSome_none, Bool.false_eq_true, if_false,
            List.foldl_cons, List.foldl_nil]
      | some entries =>
          have replaced : (((result.followedBy (applyPortScheduleProfile
              (xdk position .schedule) port schedule [])).followedBy (applyPortQueueProfile
              (xdk position .queue) port entries [])).1 = none) =
              ProfileProgrammed xdk schedule (some entries) (position, .queue) := by
            unfold ProfileProgrammed
            simp only [Option.mem_some_iff, forall_eq']
            exact propext applyPortQueueProfile_eq_none_iff
          simp only [replaced, portSteps, Option.isSome_some, if_true,
            List.foldl_cons, List.foldl_nil]

/-- For every bundle and all settings, the two functions return zero exactly when every
step on every port succeeded, if and only if every step but the last one succeeds or
the last one fails. -/
theorem qos_reported_iff
    (xdk : Nat → Answers)
    (profileXdk : Nat → Profile → Answers)
    (ports : List Nat)
    (settings : QosPortSettings)
    (schedule : List ScheduleEntry)
    (queue : Option (List QueueEntry)) :
    (((setPortQosCfg xdk (some ports) settings).1 = none ↔
        ∀ position ∈ List.range ports.length, CfgProgrammed (xdk position) settings) ↔
      LastReports (fun position => CfgProgrammed (xdk position) settings)
        (List.range ports.length)) ∧
    (((applyQosProfile profileXdk true (some ports) (some schedule) queue).1 = none ↔
        ∀ step ∈ (List.range ports.length).flatMap (portSteps queue),
          ProfileProgrammed profileXdk schedule queue step) ↔
      LastReports (ProfileProgrammed profileXdk schedule queue)
        ((List.range ports.length).flatMap (portSteps queue))) := by
  constructor
  · rw [setPortQosCfg_eq_none_iff]
    exact overwritten_iff _ _
  · have returns := profilesLoop_eq_none_iff profileXdk schedule queue ports 0 (none, [])
    simp only [← List.range_eq_range', eq_self] at returns
    unfold applyQosProfile
    simp only [Bool.not_true, Bool.false_eq_true, if_false]
    rw [returns]
    exact overwritten_iff _ _

/-- All calls of a step get the same answer. -/
def uniform (succeeds : Bool) : Answers where
  succeeds := fun _ => succeeds
  value := fun _ => (0, 0)

/-- A failure on the first of two ports is not returned, and neither is a failure of
the schedule profile when the queue profile succeeds after it. -/
theorem not_reported_uniform :
    (¬((setPortQosCfg (fun position => uniform (position == 1)) (some [3, 4])
          ⟨.cos, false, 0⟩).1 = none ↔
        ∀ position ∈ List.range 2, CfgProgrammed (uniform (position == 1)) ⟨.cos, false, 0⟩)) ∧
      ¬((applyQosProfile (fun _ profile => uniform (profile == .queue)) true (some [3])
          (some [⟨0, .strict, 0⟩]) (some [⟨0, [0]⟩])).1 = none ↔
        ∀ step ∈ (List.range 1).flatMap (portSteps (some [⟨0, [0]⟩])),
          ProfileProgrammed (fun _ profile => uniform (profile == .queue)) [⟨0, .strict, 0⟩]
            (some [⟨0, [0]⟩]) step) := by
  constructor
  · intro reported
    have programmed := reported.mp (by decide) 0 (by decide)
    exact absurd (programmed 0 (by decide)) (by decide)
  · intro reported
    have programmed := reported.mp (by decide) (0, .schedule) (by decide)
    exact absurd (programmed.2 0 (by decide)) (by decide)

end Qos
end XpliantSwitchd
