import XpliantSwitchd.Bundles.VlanConfig
import XpliantSwitchd.Vlan.Hardware

/-!
# VLAN bitmaps from arrays

This module embeds `ops-xp-vlan-bitmap.c`.  The arrays hold 64-bit integers.  The
validity test takes an `xpsVlan_t` of 16 bits and the bitmap functions take a
`size_t`, so the same element is seen as two numbers, and an element that only
passes the test by its low bits leads outside the bitmap.
-/

namespace XpliantSwitchd
namespace Bundles

open Vlans

/-- `bitmap_is_set`.  There is no result for a position outside the bitmap. -/
def bitmapIsSet {count : Nat} (bitmap : BitVec count) (offset : Nat) : Option Bool :=
  if offset < count then some (bitmap.getLsbD offset) else none

/-- The loop of `ops_xp_vlan_bitmap_from_array__`, with the number of bits set so
far. -/
def vlanBitmapFromArrayLoop (env : Env) :
    List (BitVec 64) → Nat → BitVec env.vlanMaxCount → Option (Nat × BitVec env.vlanMaxCount)
  | [], added, bitmap => some (added, bitmap)
  | vlan :: vlans, added, bitmap =>
      if isVlanIdValid env (vlan.toNat % 2 ^ 16) then
        match bitmapIsSet bitmap vlan.toNat with
        | none => none
        | some true => vlanBitmapFromArrayLoop env vlans added bitmap
        | some false =>
            vlanBitmapFromArrayLoop env vlans (added + 1) (bitmapSet1 bitmap vlan.toNat)
      else vlanBitmapFromArrayLoop env vlans added bitmap

/-- `ops_xp_vlan_bitmap_from_array__`: the number of bits added, and the bitmap.
There is no result when it leaves the bitmap. -/
def vlanBitmapFromArrayInto (env : Env) (vlans : List (BitVec 64))
    (bitmap : BitVec env.vlanMaxCount) : Option (Nat × BitVec env.vlanMaxCount) :=
  vlanBitmapFromArrayLoop env vlans 0 bitmap

/-- `ops_xp_vlan_bitmap_from_array`: a bitmap that may be null. -/
def vlanBitmapFromArray (env : Env) (vlans : List (BitVec 64)) :
    Option (Option (BitVec env.vlanMaxCount)) :=
  if vlans.length = 0 then some none
  else
    (vlanBitmapFromArrayInto env vlans 0).map fun (added, bitmap) =>
      if added = 0 then none else some bitmap

/-! ## The bits of an array -/

/-- The valid VLAN id `vid` occurs in an array. -/
def Occurs (env : Env) (vlans : List (BitVec 64)) (vid : Nat) : Prop :=
  ∃ vlan ∈ vlans, vlan.toInt = vid ∧ env.vlanMinId ≤ vid ∧ vid ≤ env.vlanMaxId

/-- What is said of a call: it stays inside the bitmap, adds the valid VLAN ids of
the array and counts the bits that it sets. -/
def AddsArray (env : Env) (vlans : List (BitVec 64)) (bitmap : BitVec env.vlanMaxCount) :
    Prop :=
  ∃ added after, vlanBitmapFromArrayInto env vlans bitmap = some (added, after) ∧
    (∀ vid, after.getLsbD vid = true ↔
      bitmap.getLsbD vid = true ∨ Occurs env vlans vid) ∧
    added = (bitmapOnes (after &&& ~~~bitmap)).length

/-- A null bitmap is returned for the arrays without a valid VLAN id only. -/
def NullWithoutVlans (env : Env) (vlans : List (BitVec 64)) : Prop :=
  ∃ result, vlanBitmapFromArray env vlans = some result ∧
    (result = none ↔ ∀ vid, ¬Occurs env vlans vid)

/-- An element whose low 16 bits are a valid VLAN id is that VLAN id. -/
def Unaliased (env : Env) (vlan : BitVec 64) : Prop :=
  isVlanIdValid env (vlan.toNat % 2 ^ 16) = true →
    (env.vlanMinId : Int) ≤ vlan.toInt ∧ vlan.toInt ≤ env.vlanMaxId

section Element

variable {env : Env} {vlan : BitVec 64}

theorem isVlanIdValid_iff {vlanId : Nat} :
    isVlanIdValid env vlanId = true ↔
      env.vlanMinId ≤ vlanId ∧ vlanId ≤ env.vlanMaxId := by
  simp [isVlanIdValid]

/-- A valid VLAN id is the same number in every width. -/
theorem toInt_eq_iff {vid : Nat} (bounded : vid ≤ env.vlanMaxId) :
    vlan.toInt = vid ↔ vlan.toNat = vid := by
  have count := env.max_lt_count
  have limit := env.count_le
  have wide := vlan.isLt
  rw [BitVec.toInt_eq_toNat_cond]
  split <;> omega

/-- The element leads into the bitmap when it is not an alias, and outside of it
otherwise. -/
theorem unaliased_iff (valid : isVlanIdValid env (vlan.toNat % 2 ^ 16) = true) :
    Unaliased env vlan ↔ vlan.toNat < env.vlanMaxCount := by
  have count := env.max_lt_count
  have limit := env.count_le
  have wide := vlan.isLt
  have bounds := isVlanIdValid_iff.mp valid
  unfold Unaliased
  rw [forall_prop_of_true valid, BitVec.toInt_eq_toNat_cond]
  constructor
  · intro inRange
    split at inRange <;> omega
  · intro inside
    split <;> omega

/-- An element that passes the test inside the bitmap occurs as its own number. -/
theorem occurs_cons_of_valid
    {vlans : List (BitVec 64)}
    (valid : isVlanIdValid env (vlan.toNat % 2 ^ 16) = true)
    (inside : vlan.toNat < env.vlanMaxCount)
    (vid : Nat) :
    Occurs env (vlan :: vlans) vid ↔ vid = vlan.toNat ∨ Occurs env vlans vid := by
  have limit := env.count_le
  have small : vlan.toNat % 2 ^ 16 = vlan.toNat := Nat.mod_eq_of_lt (by omega)
  rw [small] at valid
  have bounds := isVlanIdValid_iff.mp valid
  unfold Occurs
  rw [List.exists_mem_cons_iff]
  apply or_congr_left
  constructor
  · rintro ⟨same, _, most⟩
    exact ((toInt_eq_iff most).mp same).symm
  · rintro rfl
    exact ⟨(toInt_eq_iff bounds.2).mpr rfl, bounds⟩

/-- An element that fails the test is no valid VLAN id. -/
theorem occurs_cons_of_invalid
    {vlans : List (BitVec 64)}
    (invalid : ¬isVlanIdValid env (vlan.toNat % 2 ^ 16) = true)
    (vid : Nat) :
    Occurs env (vlan :: vlans) vid ↔ Occurs env vlans vid := by
  unfold Occurs
  rw [List.exists_mem_cons_iff, or_iff_right]
  rintro ⟨same, least, most⟩
  apply invalid
  have count := env.max_lt_count
  have limit := env.count_le
  rw [(toInt_eq_iff most).mp same, Nat.mod_eq_of_lt (by omega)]
  exact isVlanIdValid_iff.mpr ⟨least, most⟩

end Element

/-! ## The loop -/

/-- A bit that is set for the first time is one more of those that are new in the
end. -/
theorem length_bitmapOnes_bitmapSet1
    {count offset : Nat}
    {bitmap after : BitVec count}
    (inside : offset < count)
    (unset : bitmap.getLsbD offset = false)
    (isSet : after.getLsbD offset = true) :
    (bitmapOnes (after &&& ~~~bitmap)).length =
      (bitmapOnes (after &&& ~~~bitmapSet1 bitmap offset)).length + 1 := by
  rw [← List.length_cons (a := offset)]
  apply List.Perm.length_eq
  rw [List.perm_ext_iff_of_nodup (nodup_bitmapOnes _)]
  · intro position
    rw [List.mem_cons, mem_bitmapOnes, mem_bitmapOnes, BitVec.getLsbD_and,
      BitVec.getLsbD_and, BitVec.getLsbD_not, BitVec.getLsbD_not,
      getLsbD_bitmapSet1 _ _ inside]
    by_cases same : position = offset
    · subst same
      rw [unset, isSet]
      simp [inside]
    · simp [same]
  · rw [List.nodup_cons]
    refine ⟨?_, nodup_bitmapOnes _⟩
    rw [mem_bitmapOnes, BitVec.getLsbD_and, BitVec.getLsbD_not, getLsbD_bitmapSet1 _ _ inside]
    simp

section Loop

variable {env : Env} {vlans : List (BitVec 64)}

/-- Without aliases the loop returns the bitmap with the array added, and the
number of bits that are new. -/
theorem vlanBitmapFromArrayLoop_returns
    (unaliased : ∀ vlan ∈ vlans, Unaliased env vlan)
    (added : Nat)
    (bitmap : BitVec env.vlanMaxCount) :
    ∃ after, vlanBitmapFromArrayLoop env vlans added bitmap =
        some (added + (bitmapOnes (after &&& ~~~bitmap)).length, after) ∧
      ∀ vid, after.getLsbD vid = true ↔
        bitmap.getLsbD vid = true ∨ Occurs env vlans vid := by
  induction vlans generalizing added bitmap with
  | nil =>
      refine ⟨bitmap, ?_, ?_⟩
      · simp [vlanBitmapFromArrayLoop, bitmapOnes]
      · intro vid
        simp [Occurs]
  | cons vlan vlans inductionHypothesis =>
      obtain ⟨own, others⟩ := List.forall_mem_cons.mp unaliased
      unfold vlanBitmapFromArrayLoop
      by_cases valid : isVlanIdValid env (vlan.toNat % 2 ^ 16) = true
      · have inside := (unaliased_iff valid).mp own
        rw [if_pos valid]
        unfold bitmapIsSet
        rw [if_pos inside]
        cases present : bitmap.getLsbD vlan.toNat with
        | true =>
            obtain ⟨after, equation, bits⟩ := inductionHypothesis others added bitmap
            refine ⟨after, equation, ?_⟩
            intro vid
            rw [bits, occurs_cons_of_valid valid inside]
            constructor
            · exact Or.imp_right Or.inr
            · rintro (before | rfl | occurs)
              · exact .inl before
              · exact .inl present
              · exact .inr occurs
        | false =>
            obtain ⟨after, equation, bits⟩ :=
              inductionHypothesis others (added + 1) (bitmapSet1 bitmap vlan.toNat)
            have isSet : after.getLsbD vlan.toNat = true := by
              rw [bits, getLsbD_bitmapSet1 _ _ inside]
              simp
            refine ⟨after, ?_, ?_⟩
            · rw [length_bitmapOnes_bitmapSet1 inside present isSet]
              rw [Nat.add_right_comm] at equation
              exact equation
            · intro vid
              rw [bits, getLsbD_bitmapSet1 _ _ inside, occurs_cons_of_valid valid inside,
                Bool.or_eq_true, decide_eq_true_iff, or_assoc]
      · obtain ⟨after, equation, bits⟩ := inductionHypothesis others added bitmap
        refine ⟨after, ?_, ?_⟩
        · rw [if_neg valid]
          exact equation
        · intro vid
          rw [bits, occurs_cons_of_invalid valid]

/-- The loop leaves the bitmap at an alias. -/
theorem vlanBitmapFromArrayLoop_eq_none
    {stray : BitVec 64}
    (member : stray ∈ vlans)
    (aliased : ¬Unaliased env stray)
    (added : Nat)
    (bitmap : BitVec env.vlanMaxCount) :
    vlanBitmapFromArrayLoop env vlans added bitmap = none := by
  induction vlans generalizing added bitmap with
  | nil => exact absurd member List.not_mem_nil
  | cons vlan vlans inductionHypothesis =>
      unfold vlanBitmapFromArrayLoop
      rcases List.mem_cons.mp member with rfl | later
      · have valid : isVlanIdValid env (stray.toNat % 2 ^ 16) = true := by
          by_contra invalid
          exact aliased fun valid => absurd valid invalid
        have outside := aliased ∘ (unaliased_iff valid).mpr
        rw [if_pos valid]
        unfold bitmapIsSet
        rw [if_neg outside]
      · split
        · split
          · rfl
          · exact inductionHypothesis later _ _
          · exact inductionHypothesis later _ _
        · exact inductionHypothesis later _ _

theorem addsArray_iff {bitmap : BitVec env.vlanMaxCount} :
    AddsArray env vlans bitmap ↔ ∀ vlan ∈ vlans, Unaliased env vlan := by
  constructor
  · rintro ⟨added, after, equation, _⟩ vlan member
    by_contra aliased
    have outside := vlanBitmapFromArrayLoop_eq_none member aliased 0 bitmap
    unfold vlanBitmapFromArrayInto at equation
    rw [outside] at equation
    contradiction
  · intro unaliased
    obtain ⟨after, equation, bits⟩ := vlanBitmapFromArrayLoop_returns unaliased 0 bitmap
    rw [Nat.zero_add] at equation
    exact ⟨_, after, equation, bits, rfl⟩

/-- Without aliases, a null bitmap stands for no valid VLAN id. -/
theorem nullWithoutVlans_of_unaliased (unaliased : ∀ vlan ∈ vlans, Unaliased env vlan) :
    NullWithoutVlans env vlans := by
  unfold NullWithoutVlans vlanBitmapFromArray
  by_cases empty : vlans.length = 0
  · rw [if_pos empty, List.length_eq_zero_iff.mp empty]
    refine ⟨none, rfl, ?_⟩
    simp [Occurs]
  · obtain ⟨added, after, equation, bits, counted⟩ :=
      (@addsArray_iff env vlans 0).mpr unaliased
    rw [if_neg empty, equation]
    refine ⟨_, rfl, ?_⟩
    have unset : ∀ vid, (0 : BitVec env.vlanMaxCount).getLsbD vid = false := by simp
    have noneAdded : added = 0 ↔ ∀ vid, ¬Occurs env vlans vid := by
      rw [counted, List.length_eq_zero_iff, List.eq_nil_iff_forall_not_mem]
      apply forall_congr'
      intro vid
      rw [mem_bitmapOnes, BitVec.getLsbD_and, BitVec.getLsbD_not, unset]
      have bit := bits vid
      rw [unset] at bit
      simp only [Bool.false_eq_true, false_or] at bit
      rw [← bit]
      by_cases inside : vid < env.vlanMaxCount
      · simp [inside]
      · simp [BitVec.getLsbD_of_ge after vid (not_lt.mp inside)]
    rw [← noneAdded]
    by_cases isZero : added = 0
    · simp [isZero]
    · simp [isZero]

end Loop

/-- The array is added to the bitmap as it should be, and a null bitmap stands for
no valid VLAN id, if and only if no element passes the validity test by its low
bits only. -/
theorem vlanBitmapFromArray_met_iff
    (env : Env)
    (vlans : List (BitVec 64))
    (bitmap : BitVec env.vlanMaxCount) :
    AddsArray env vlans bitmap ∧ NullWithoutVlans env vlans ↔
      ∀ vlan ∈ vlans, isVlanIdValid env (vlan.toNat % 2 ^ 16) = true →
        (env.vlanMinId : Int) ≤ vlan.toInt ∧ vlan.toInt ≤ env.vlanMaxId := by
  constructor
  · intro met
    exact addsArray_iff.mp met.1
  · intro unaliased
    exact ⟨addsArray_iff.mpr unaliased, nullWithoutVlans_of_unaliased unaliased⟩

/-- The element 65537 passes the test as VLAN 1 and is looked up 8 kilobytes after
the start of a bitmap of 512 bytes. -/
theorem not_addsArray_alias : ¬AddsArray sampleEnv [65537] 0 := by
  rw [addsArray_iff]
  intro unaliased
  have inRange := unaliased 65537 (by decide) (by decide)
  revert inRange
  decide

end Bundles
end XpliantSwitchd
