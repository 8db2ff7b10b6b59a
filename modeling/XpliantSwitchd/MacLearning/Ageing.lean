import XpliantSwitchd.Basic
import XpliantSwitchd.Lib.Transition
import Mathlib.Tactic.Ring
import Mathlib.Tactic.NormNum

/-!
# Ageing parameters

This module embeds the part of `ops-xp-mac-learning.c` that programs the ageing
time.  The hardware takes it as a unit time of 32 bits and an even exponent of
two, by two calls.  The quotient of the idle time depends on the factor that is
left of it without its powers of four, and it does not fit 32 bits for every idle
time that the code lets through.
-/

namespace XpliantSwitchd
namespace MacLearning

/-- `normalize_idle_time`. -/
def normalizeIdleTime (idleTime : Nat) : Nat :=
  if idleTime < 15 then 15
  else if idleTime > 3600 then 3600
  else idleTime

/-- `idle_time * 10000000ULL * 55`, in 64 bits. -/
def idleTicks (idleTime : Nat) : Nat :=
  idleTime * 10000000 % 2 ^ 64 * 55 % 2 ^ 64

/-- The loop of `calc_aging_params`, with the `uint32_t` it doubles.  There is no
result when that number has become zero. -/
def agingLoop (ticks : Nat) : (fuel i ageExpo : Nat) → Option (Nat × Nat)
  | 0, _, _ => none
  | fuel + 1, i, ageExpo =>
      if i * 2 % 2 ^ 32 = 0 then none
      else if ticks % (i * 2 % 2 ^ 32) = 0 then
        agingLoop ticks fuel (i * 2 % 2 ^ 32) (ageExpo + 1)
      else some (i, ageExpo)

/-- The quotient that `calc_aging_params` computes, and the exponent. -/
def agingQuotient (idleTime : Nat) : Option (Nat × Nat) :=
  (agingLoop (idleTicks idleTime) 32 2 1).map fun (i, ageExpo) =>
    if ageExpo % 2 ≠ 0 then (idleTicks idleTime / (i / 2), ageExpo - 1)
    else (idleTicks idleTime / i, ageExpo)

/-- `calc_aging_params`: the unit time is a `uint32_t`. -/
def calcAgingParams (idleTime : Nat) : Option (Nat × Nat) :=
  (agingQuotient idleTime).map fun (quotient, ageExpo) => (quotient % 2 ^ 32, ageExpo)

/-- The idle time of a `struct xp_mac_learning` and the ageing parameters of the
hardware. -/
structure Ageing where
  idleTime : Nat
  unitTime : Nat
  ageExpo : Nat
  deriving DecidableEq

/-- Whether `xpsSetAgingCycleUnitTime` and `xpsFdbSetAgingTime` succeed. -/
structure AgeingOutcome where
  setAgingCycleUnitTime : Bool
  setAgingTime : Bool
  deriving DecidableEq

/-- The calls of `ops_xp_mac_learning_create` for the ageing time.  A call that
fails is logged. -/
def createAgeing (outcome : AgeingOutcome) (before : Ageing) (idleTime : Nat) :
    Option Ageing :=
  let idleTime := normalizeIdleTime idleTime
  (calcAgingParams idleTime).map fun (unitTime, ageExpo) =>
    { idleTime := idleTime
      unitTime := if outcome.setAgingCycleUnitTime then unitTime else before.unitTime
      ageExpo := if outcome.setAgingTime then ageExpo else before.ageExpo }

/-- `ops_xp_mac_learning_set_idle_time`. -/
def setIdleTime (outcome : AgeingOutcome) (before : Ageing) (idleTime : Nat) :
    Option (Option Errno × Ageing) :=
  let idleTime := normalizeIdleTime idleTime
  (calcAgingParams idleTime).map fun (unitTime, ageExpo) =>
    if !outcome.setAgingCycleUnitTime then (some .EPERM, before)
    else
      let after := { before with unitTime := unitTime }
      if !outcome.setAgingTime then (some .EPERM, after)
      else (none, { idleTime := idleTime, unitTime := unitTime, ageExpo := ageExpo })

/-- A MAC learning table is created, with calls that succeed, or gets an idle
time. -/
inductive AgeingEvent
  | create (idleTime : Nat)
  | setIdleTime (idleTime : Nat) (outcome : AgeingOutcome)
  deriving DecidableEq

/-- The idle time that an event asks for. -/
def AgeingEvent.idleTime : AgeingEvent → Nat
  | .create idleTime => idleTime
  | .setIdleTime idleTime _ => idleTime

/-- What an event leads to. -/
def AgeingEvent.apply (ageing : Ageing) : AgeingEvent → Option Ageing
  | .create idleTime => createAgeing ⟨true, true⟩ ageing idleTime
  | .setIdleTime idleTime outcome =>
      (MacLearning.setIdleTime outcome ageing idleTime).map Prod.snd

/-- The state after an event. -/
def ageingStep (ageing : Ageing) (event : AgeingEvent) : Ageing :=
  (event.apply ageing).getD ageing

/-! ## The quotient -/

/-- An idle time by its powers of four. -/
structure Quartered (idleTime fours rest : Nat) : Prop where
  eq : idleTime = 4 ^ fours * rest
  rest_mod : rest % 4 ≠ 0

/-- Every positive number has such a form. -/
theorem exists_quartered {idleTime : Nat} (positive : 0 < idleTime) :
    ∃ fours rest, Quartered idleTime fours rest := by
  induction idleTime using Nat.strongRecOn with
  | ind idleTime inductionHypothesis =>
      by_cases divides : idleTime % 4 = 0
      · obtain ⟨fours, rest, quartered⟩ :=
          inductionHypothesis (idleTime / 4) (by omega) (by omega)
        refine ⟨fours + 1, rest, ?_, quartered.rest_mod⟩
        calc
          idleTime = 4 * (idleTime / 4) := by omega
          _ = 4 * (4 ^ fours * rest) := by rw [← quartered.eq]
          _ = 4 ^ (fours + 1) * rest := by ring
      · exact ⟨0, idleTime, by simp, divides⟩

/-- The loop stops at the largest power of two that divides the ticks. -/
theorem agingLoop_eq
    {ticks odd power : Nat}
    (factored : ticks = 2 ^ power * odd)
    (isOdd : odd % 2 = 1)
    (small : power < 31)
    {fuel expo : Nat}
    (below : expo ≤ power)
    (enough : power < fuel + expo) :
    agingLoop ticks fuel (2 ^ expo) expo = some (2 ^ power, power) := by
  induction fuel generalizing expo with
  | zero => omega
  | succ fuel inductionHypothesis =>
      have unwrapped : 2 ^ expo * 2 % 2 ^ 32 = 2 ^ (expo + 1) := by
        rw [← pow_succ]
        exact Nat.mod_eq_of_lt (Nat.pow_lt_pow_right (by omega) (by omega))
      have notZero : 2 ^ (expo + 1) ≠ 0 := by positivity
      rw [agingLoop, unwrapped, if_neg notZero]
      by_cases last : expo = power
      · subst last
        rw [if_neg]
        rw [factored, pow_succ, Nat.mul_mod_mul_left, isOdd, mul_one]
        exact notZero ∘ fun isZero => by rw [pow_succ, isZero, zero_mul]
      · rw [if_pos]
        · exact inductionHypothesis (by omega) (by omega)
        · rw [factored]
          apply Nat.mod_eq_zero_of_dvd
          exact Dvd.dvd.mul_right (pow_dvd_pow 2 (by omega)) odd

/-- The unit time and the exponent that belong to an idle time. -/
def quarteredParams (fours rest : Nat) : Nat × Nat :=
  if rest % 2 = 1 then (rest * 8593750, 2 * fours + 6)
  else (rest / 2 * 4296875, 2 * fours + 8)

theorem idleTicks_eq {idleTime : Nat} (bounded : idleTime ≤ 3600) :
    idleTicks idleTime = idleTime * 550000000 := by
  unfold idleTicks
  omega

theorem two_pow_two_mul (fours : Nat) : 2 ^ (2 * fours) = 4 ^ fours :=
  pow_mul 2 2 fours

/-- The quotient of an idle time, from its powers of four. -/
theorem agingQuotient_eq
    {idleTime fours rest : Nat}
    (quartered : Quartered idleTime fours rest)
    (bounded : idleTime ≤ 3600) :
    agingQuotient idleTime = some (quarteredParams fours rest) := by
  have positive : 0 < rest := by
    have notDivided := quartered.rest_mod
    omega
  have few : fours < 6 := by
    by_contra many
    have large : 4 ^ 6 ≤ 4 ^ fours := Nat.pow_le_pow_right (by omega) (by omega)
    have product : 4 ^ fours * 1 ≤ 4 ^ fours * rest := Nat.mul_le_mul_left _ positive
    have value := quartered.eq
    omega
  have ticks : idleTicks idleTime = 2 ^ (2 * fours) * rest * 550000000 := by
    rw [idleTicks_eq bounded, quartered.eq, two_pow_two_mul]
  unfold agingQuotient quarteredParams
  by_cases isOdd : rest % 2 = 1
  · have factored : idleTicks idleTime = 2 ^ (2 * fours + 7) * (rest * 4296875) := by
      rw [ticks]
      ring
    have stops := agingLoop_eq factored (by omega) (by omega)
      (show 1 ≤ 2 * fours + 7 by omega) (show 2 * fours + 7 < 32 + 1 by omega)
    have halved : 2 ^ (2 * fours + 7) / 2 = 2 ^ (2 * fours + 6) := by
      rw [pow_succ, Nat.mul_div_cancel _ (by omega)]
    have quotient : idleTicks idleTime / 2 ^ (2 * fours + 6) = rest * 8593750 := by
      have exact : idleTicks idleTime = 2 ^ (2 * fours + 6) * (rest * 8593750) := by
        rw [ticks]
        ring
      rw [exact, Nat.mul_div_cancel_left _ (by positivity)]
    have oddExpo : (2 * fours + 7) % 2 ≠ 0 := by omega
    rw [pow_one] at stops
    rw [stops, if_pos isOdd, Option.map_some]
    simp only
    rw [if_pos oddExpo, halved, quotient, Nat.add_sub_assoc (by omega)]
  · have isEven : rest = 2 * (rest / 2) := by omega
    have halfOdd : rest / 2 % 2 = 1 := by
      have notDivided := quartered.rest_mod
      omega
    have factored : idleTicks idleTime = 2 ^ (2 * fours + 8) * (rest / 2 * 4296875) := by
      rw [ticks]
      nth_rewrite 1 [isEven]
      ring
    have stops := agingLoop_eq factored (by omega) (by omega)
      (show 1 ≤ 2 * fours + 8 by omega) (show 2 * fours + 8 < 32 + 1 by omega)
    have quotient : idleTicks idleTime / 2 ^ (2 * fours + 8) = rest / 2 * 4296875 := by
      rw [factored, Nat.mul_div_cancel_left _ (by positivity)]
    have evenExpo : ¬(2 * fours + 8) % 2 ≠ 0 := by omega
    rw [pow_one] at stops
    rw [stops, if_neg isOdd, Option.map_some]
    simp only
    rw [if_neg evenExpo, quotient]

/-- The unit time and the exponent give the ticks back. -/
theorem quarteredParams_product
    {idleTime fours rest : Nat}
    (quartered : Quartered idleTime fours rest) :
    (quarteredParams fours rest).1 * 2 ^ (quarteredParams fours rest).2 =
      idleTime * 550000000 := by
  unfold quarteredParams
  split
  · rw [quartered.eq, pow_add, two_pow_two_mul]
    ring
  · have isEven : rest = 2 * (rest / 2) := by omega
    rw [quartered.eq, pow_add, two_pow_two_mul]
    nth_rewrite 2 [isEven]
    ring

theorem quarteredParams_even (fours rest : Nat) :
    (quarteredParams fours rest).2 % 2 = 0 := by
  unfold quarteredParams
  split
  · simp only
    omega
  · simp only
    omega

/-- The bound that the rest has to keep for the unit time to fit. -/
def RestFits (rest : Nat) : Prop :=
  if rest % 2 = 1 then rest ≤ 499 else rest ≤ 1998

theorem quarteredParams_lt_iff
    {idleTime fours rest : Nat}
    (quartered : Quartered idleTime fours rest) :
    (quarteredParams fours rest).1 < 2 ^ 32 ↔ RestFits rest := by
  have notDivided := quartered.rest_mod
  unfold quarteredParams RestFits
  split
  · simp only
    omega
  · simp only
    omega

/-- Only the rest matters for the unit time. -/
theorem quarteredParams_fst_eq_iff
    {idleTime fours rest other otherFours otherRest : Nat}
    (quartered : Quartered idleTime fours rest)
    (otherQuartered : Quartered other otherFours otherRest) :
    (quarteredParams fours rest).1 = (quarteredParams otherFours otherRest).1 ↔
      rest = otherRest := by
  have notDivided := quartered.rest_mod
  have otherNotDivided := otherQuartered.rest_mod
  unfold quarteredParams
  split <;> split <;> simp only <;> omega

/-! ## Idle times up to powers of four -/

namespace Quartered

variable {idleTime fours rest other otherFours otherRest : Nat}

/-- The form is unique. -/
theorem unique
    (quartered : Quartered idleTime fours rest)
    (again : Quartered idleTime otherFours otherRest) :
    rest = otherRest := by
  induction fours generalizing idleTime otherFours with
  | zero =>
      have value := quartered.eq
      have sameValue := again.eq
      have notDivided := quartered.rest_mod
      cases otherFours with
      | zero => omega
      | succ otherFours =>
          rw [pow_succ] at sameValue
          have divided : idleTime % 4 = 0 := by
            rw [sameValue, mul_assoc, mul_left_comm]
            exact Nat.mul_mod_right 4 _
          omega
  | succ fours inductionHypothesis =>
      have value := quartered.eq
      have sameValue := again.eq
      have notDivided := again.rest_mod
      rw [pow_succ, mul_assoc, mul_left_comm] at value
      cases otherFours with
      | zero =>
          have divided : idleTime % 4 = 0 := by
            rw [value]
            exact Nat.mul_mod_right 4 _
          omega
      | succ otherFours =>
          rw [pow_succ, mul_assoc, mul_left_comm] at sameValue
          exact @inductionHypothesis (idleTime / 4) otherFours
            ⟨by omega, quartered.rest_mod⟩ ⟨by omega, again.rest_mod⟩

/-- Times with the same rest differ by a power of four. -/
theorem rest_eq_iff
    (quartered : Quartered idleTime fours rest)
    (otherQuartered : Quartered other otherFours otherRest) :
    rest = otherRest ↔
      ∃ power, idleTime = 4 ^ power * other ∨ other = 4 ^ power * idleTime := by
  constructor
  · rintro rfl
    rcases Nat.le_total otherFours fours with fewer | more
    · refine ⟨fours - otherFours, .inl ?_⟩
      rw [quartered.eq, otherQuartered.eq, ← mul_assoc, ← pow_add,
        Nat.sub_add_cancel fewer]
    · refine ⟨otherFours - fours, .inr ?_⟩
      rw [quartered.eq, otherQuartered.eq, ← mul_assoc, ← pow_add,
        Nat.sub_add_cancel more]
  · rintro ⟨power, scaled | scaled⟩
    · apply @unique idleTime fours rest (power + otherFours) otherRest quartered
      refine ⟨?_, otherQuartered.rest_mod⟩
      rw [scaled, otherQuartered.eq, pow_add, mul_assoc]
    · symm
      apply @unique other otherFours otherRest (power + fours) rest otherQuartered
      refine ⟨?_, quartered.rest_mod⟩
      rw [scaled, quartered.eq, pow_add, mul_assoc]

end Quartered

/-! ## Runs -/

/-- The hardware ages entries out after the idle time. -/
def Ageing.Programmed (ageing : Ageing) : Prop :=
  ageing.unitTime * 2 ^ ageing.ageExpo = ageing.idleTime * 550000000 ∧
    ageing.ageExpo % 2 = 0

/-- The quotient for an idle time fits the `uint32_t` it is written to. -/
def QuotientFits (idleTime : Nat) : Prop :=
  ∃ quotient ageExpo, agingQuotient (normalizeIdleTime idleTime) = some (quotient, ageExpo) ∧
    quotient < 2 ^ 32

/-- An event leaves the hardware programmed and truncates nothing. -/
def AgeingMet (ageing : Ageing) (event : AgeingEvent) : Prop :=
  QuotientFits event.idleTime ∧
    ∃ after, event.apply ageing = some after ∧ after.Programmed

/-- Without its powers of four, an idle time is at most 499, or at most 1998 when
an even number is left. -/
def UnitFits (idleTime : Nat) : Prop :=
  ∃ fours rest, Quartered (normalizeIdleTime idleTime) fours rest ∧ RestFits rest

/-- The unit time of the event fits; and where only the first of the two calls
takes effect, the idle time differs from the current one by a power of four. -/
def Faithful (ageing : Ageing) : AgeingEvent → Prop
  | .create idleTime => UnitFits idleTime
  | .setIdleTime idleTime outcome =>
      UnitFits idleTime ∧
        (outcome.setAgingCycleUnitTime = true → outcome.setAgingTime = false →
          ∃ power, normalizeIdleTime idleTime = 4 ^ power * ageing.idleTime ∨
            ageing.idleTime = 4 ^ power * normalizeIdleTime idleTime)

/-- The parameters in the hardware are those that the code computes for the idle
time. -/
def Ageing.Settled (ageing : Ageing) : Prop :=
  ∃ fours rest, Quartered ageing.idleTime fours rest ∧
    (ageing.unitTime, ageing.ageExpo) = quarteredParams fours rest

theorem Ageing.Settled.programmed {ageing : Ageing} (settled : ageing.Settled) :
    ageing.Programmed := by
  obtain ⟨fours, rest, quartered, params⟩ := settled
  obtain ⟨unitTime, ageExpo⟩ := Prod.mk.inj params
  constructor
  · rw [unitTime, ageExpo]
    exact quarteredParams_product quartered
  · rw [ageExpo]
    exact quarteredParams_even fours rest

theorem normalizeIdleTime_bounds (idleTime : Nat) :
    15 ≤ normalizeIdleTime idleTime ∧ normalizeIdleTime idleTime ≤ 3600 := by
  unfold normalizeIdleTime
  split
  · omega
  · split <;> omega

section Event

variable {ageing : Ageing} {idleTime fours rest : Nat} {outcome : AgeingOutcome}

theorem quotientFits_iff (quartered : Quartered (normalizeIdleTime idleTime) fours rest) :
    QuotientFits idleTime ↔ RestFits rest := by
  rw [← quarteredParams_lt_iff quartered]
  unfold QuotientFits
  rw [agingQuotient_eq quartered (normalizeIdleTime_bounds idleTime).2]
  constructor
  · rintro ⟨quotient, ageExpo, equation, fits⟩
    rw [Option.some.inj equation]
    exact fits
  · intro fits
    exact ⟨_, _, rfl, fits⟩

theorem unitFits_iff (quartered : Quartered (normalizeIdleTime idleTime) fours rest) :
    UnitFits idleTime ↔ RestFits rest := by
  constructor
  · rintro ⟨otherFours, otherRest, again, fits⟩
    rw [quartered.unique again]
    exact fits
  · intro fits
    exact ⟨fours, rest, quartered, fits⟩

theorem calcAgingParams_eq
    (quartered : Quartered (normalizeIdleTime idleTime) fours rest)
    (fits : RestFits rest) :
    calcAgingParams (normalizeIdleTime idleTime) = some (quarteredParams fours rest) := by
  have small := (quarteredParams_lt_iff quartered).mpr fits
  unfold calcAgingParams
  rw [agingQuotient_eq quartered (normalizeIdleTime_bounds idleTime).2, Option.map_some]
  simp only [Nat.mod_eq_of_lt small]

theorem createAgeing_eq
    (quartered : Quartered (normalizeIdleTime idleTime) fours rest)
    (fits : RestFits rest) :
    createAgeing ⟨true, true⟩ ageing idleTime =
      some ⟨normalizeIdleTime idleTime, (quarteredParams fours rest).1,
        (quarteredParams fours rest).2⟩ := by
  unfold createAgeing
  simp only [calcAgingParams_eq quartered fits, Option.map_some, if_true]

/-- What an idle time leads to, for each outcome of the two calls. -/
theorem setIdleTime_eq
    (quartered : Quartered (normalizeIdleTime idleTime) fours rest)
    (fits : RestFits rest) :
    setIdleTime outcome ageing idleTime = some
      (match outcome.setAgingCycleUnitTime, outcome.setAgingTime with
        | false, _ => (some .EPERM, ageing)
        | true, false =>
            (some .EPERM, { ageing with unitTime := (quarteredParams fours rest).1 })
        | true, true =>
            (none, ⟨normalizeIdleTime idleTime, (quarteredParams fours rest).1,
              (quarteredParams fours rest).2⟩)) := by
  unfold setIdleTime
  simp only [calcAgingParams_eq quartered fits, Option.map_some]
  cases outcome.setAgingCycleUnitTime with
  | false => simp
  | true => cases outcome.setAgingTime <;> simp

/-- A creation settles the parameters when the unit time fits. -/
theorem create_settled (fits : UnitFits idleTime) :
    (ageingStep ageing (.create idleTime)).Settled := by
  obtain ⟨fours, rest, quartered, restFits⟩ := fits
  unfold ageingStep AgeingEvent.apply
  simp only
  rw [createAgeing_eq quartered restFits]
  exact ⟨fours, rest, quartered, rfl⟩

theorem ageingMet_create_iff :
    AgeingMet ageing (.create idleTime) ↔ UnitFits idleTime := by
  obtain ⟨fours, rest, quartered⟩ := @exists_quartered (normalizeIdleTime idleTime)
    (by have bounds := normalizeIdleTime_bounds idleTime; omega)
  rw [unitFits_iff quartered]
  unfold AgeingMet AgeingEvent.apply AgeingEvent.idleTime
  simp only
  rw [quotientFits_iff quartered]
  constructor
  · intro met
    exact met.1
  · intro fits
    rw [createAgeing_eq quartered fits]
    refine ⟨fits, _, rfl, ?_⟩
    apply Ageing.Settled.programmed
    exact ⟨fours, rest, quartered, rfl⟩

/-- Where only the unit time takes effect, the hardware stays programmed when it
is the unit time that was there. -/
theorem programmed_unitTime_iff
    (settled : ageing.Settled)
    (quartered : Quartered (normalizeIdleTime idleTime) fours rest) :
    ({ ageing with unitTime := (quarteredParams fours rest).1 } : Ageing).Programmed ↔
      ∃ power, normalizeIdleTime idleTime = 4 ^ power * ageing.idleTime ∨
        ageing.idleTime = 4 ^ power * normalizeIdleTime idleTime := by
  obtain ⟨product, even⟩ := settled.programmed
  obtain ⟨currentFours, currentRest, current, params⟩ := settled
  rw [← quartered.rest_eq_iff current, ← quarteredParams_fst_eq_iff quartered current,
    ← params]
  constructor
  · rintro ⟨same, _⟩
    apply Nat.eq_of_mul_eq_mul_right (show 0 < 2 ^ ageing.ageExpo by positivity)
    exact same.trans product.symm
  · intro same
    refine ⟨?_, even⟩
    simp only [same]
    exact product

theorem ageingMet_setIdleTime_iff (settled : ageing.Settled) :
    AgeingMet ageing (.setIdleTime idleTime outcome) ↔
      Faithful ageing (.setIdleTime idleTime outcome) := by
  obtain ⟨fours, rest, quartered⟩ := @exists_quartered (normalizeIdleTime idleTime)
    (by have bounds := normalizeIdleTime_bounds idleTime; omega)
  unfold AgeingMet Faithful AgeingEvent.apply AgeingEvent.idleTime
  simp only
  rw [unitFits_iff quartered, quotientFits_iff quartered]
  apply and_congr_right
  intro fits
  rw [setIdleTime_eq quartered fits]
  cases outcome.setAgingCycleUnitTime with
  | false => simpa using settled.programmed
  | true =>
      cases outcome.setAgingTime with
      | false => simpa using programmed_unitTime_iff settled quartered
      | true =>
          have after : (⟨normalizeIdleTime idleTime, (quarteredParams fours rest).1,
              (quarteredParams fours rest).2⟩ : Ageing).Settled :=
            ⟨fours, rest, quartered, rfl⟩
          simpa using after.programmed

end Event

theorem ageingMet_iff_faithful {ageing : Ageing} (settled : ageing.Settled)
    (event : AgeingEvent) : AgeingMet ageing event ↔ Faithful ageing event := by
  cases event with
  | create idleTime => exact ageingMet_create_iff
  | setIdleTime idleTime outcome => exact ageingMet_setIdleTime_iff settled

/-- A faithful event leaves the parameters settled. -/
theorem Ageing.Settled.step
    {ageing : Ageing}
    {event : AgeingEvent}
    (settled : ageing.Settled)
    (faithful : Faithful ageing event) :
    (ageingStep ageing event).Settled := by
  cases event with
  | create idleTime => exact create_settled faithful
  | setIdleTime idleTime outcome =>
      obtain ⟨⟨fours, rest, quartered, fits⟩, scaled⟩ := faithful
      unfold ageingStep AgeingEvent.apply
      simp only
      rw [setIdleTime_eq quartered fits]
      cases first : outcome.setAgingCycleUnitTime with
      | false => exact settled
      | true =>
          cases second : outcome.setAgingTime with
          | true => exact ⟨fours, rest, quartered, rfl⟩
          | false =>
              obtain ⟨currentFours, currentRest, current, params⟩ := settled
              have same := (quarteredParams_fst_eq_iff quartered current).mpr
                ((quartered.rest_eq_iff current).mpr (scaled first second))
              refine ⟨currentFours, currentRest, current, ?_⟩
              simp only [Option.map_some, Option.getD_some, same]
              rw [← params]

/-- A run keeps the hardware programmed, and truncates no quotient, if and only if
each of its events is faithful. -/
theorem ageingMet_run_iff (before : Ageing) (idleTime : Nat) (events : List AgeingEvent) :
    Transition.Guarded AgeingMet ageingStep before (.create idleTime :: events) ↔
      Transition.Guarded Faithful ageingStep before (.create idleTime :: events) := by
  unfold Transition.Guarded
  rw [ageingMet_create_iff]
  apply and_congr_right
  intro fits
  exact Transition.guarded_iff_of_invariant Ageing.Settled
    (fun _ event settled => ageingMet_iff_faithful settled event)
    (fun _ _ settled faithful => settled.step faithful) (create_settled fits) events

/-- An odd idle time from 501 on is truncated.  When the second call fails after an
idle time of 300 was current, the unit time is that of the new one. -/
theorem not_ageingMet_create :
    ¬Transition.Guarded AgeingMet ageingStep ⟨0, 0, 0⟩ [.create 501] ∧
      ¬Transition.Guarded AgeingMet ageingStep ⟨0, 0, 0⟩
        [.create 300, .setIdleTime 15 ⟨true, false⟩] := by
  constructor
  · rintro ⟨⟨⟨quotient, ageExpo, equation, fits⟩, _⟩, _⟩
    have computed : agingQuotient (normalizeIdleTime (AgeingEvent.create 501).idleTime) =
        some (4305468750, 6) := by
      decide +kernel
    rw [computed] at equation
    cases equation
    omega
  · rintro ⟨_, ⟨_, after, equation, programmed, _⟩, _⟩
    have computed : AgeingEvent.apply (ageingStep ⟨0, 0, 0⟩ (.create 300))
        (.setIdleTime 15 ⟨true, false⟩) = some ⟨300, 128906250, 8⟩ := by
      decide +kernel
    rw [computed] at equation
    cases equation
    revert programmed
    decide +kernel

end MacLearning
end XpliantSwitchd
