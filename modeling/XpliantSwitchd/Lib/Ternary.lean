import Mathlib.Data.List.Basic
import Mathlib.Data.Nat.Basic

/-!
# Memory images and ternary comparison

Words stored with the least significant byte first, the C functions that write
byte arrays, and the comparison of a ternary memory: a bit is compared exactly
where its mask bit is zero.
-/

namespace XpliantSwitchd
namespace Ternary

/-- A byte of memory. -/
abbrev Byte := BitVec 8

/-- The first bytes of a word in memory. -/
def store {width : Nat} (count : Nat) (word : BitVec width) : List Byte :=
  (List.range count).map fun position => word.extractLsb' (8 * position) 8

/-- `memcpy`. -/
def memcpy (target source : List Byte) (count : Nat) : List Byte :=
  source.take count ++ target.drop count

/-- `memset`. -/
def memset (target : List Byte) (value : Byte) (count : Nat) : List Byte :=
  List.replicate count value ++ target.drop count

/-- Compare a byte where the mask has zeros. -/
def byteMatches (value mask input : Byte) : Bool :=
  (value ^^^ input) &&& ~~~mask == 0#8

/-- Compare an array of bytes. -/
def bytesMatch : List Byte → List Byte → List Byte → Bool
  | value :: values, mask :: masks, input :: inputs =>
      byteMatches value mask input && bytesMatch values masks inputs
  | _, _, _ => true

@[simp] theorem length_store {width : Nat} (count : Nat) (word : BitVec width) :
    (store count word).length = count := by
  simp [store]

/-- Writing a whole array. -/
@[simp] theorem memcpy_store
    {width count : Nat}
    {target : List Byte}
    (word : BitVec width)
    (sized : target.length = count) :
    memcpy target (store count word) count = store count word := by
  rw [memcpy, List.drop_of_length_le (Nat.le_of_eq sized), List.append_nil,
    List.take_of_length_le (Nat.le_of_eq (length_store count word))]

@[simp] theorem memset_all
    {count : Nat}
    {target : List Byte}
    (value : Byte)
    (sized : target.length = count) :
    memset target value count = List.replicate count value := by
  rw [memset, List.drop_of_length_le (Nat.le_of_eq sized), List.append_nil]

theorem store_zero (width count : Nat) :
    store count (BitVec.ofNat width 0) = List.replicate count 0#8 := by
  rw [List.eq_replicate_iff]
  refine ⟨length_store .., ?_⟩
  intro byte member
  obtain ⟨position, _, rfl⟩ := List.mem_map.mp member
  simp

/-- A mask of ones compares nothing. -/
theorem bytesMatch_wildcard (values inputs : List Byte) (count : Nat) :
    bytesMatch values (List.replicate count 0xff#8) inputs = true := by
  induction count generalizing values inputs with
  | zero => cases values <;> rfl
  | succ count inductionHypothesis =>
      cases values with
      | nil => rfl
      | cons value values =>
          cases inputs with
          | nil => rfl
          | cons input inputs =>
              rw [List.replicate_succ, bytesMatch, inductionHypothesis]
              have none : ~~~(0xff#8) = 0#8 := by decide
              simp [byteMatches, none]

theorem bytesMatch_map
    {Position : Type*}
    (positions : List Position)
    (value mask input : Position → Byte) :
    bytesMatch (positions.map value) (positions.map mask) (positions.map input) =
      positions.all fun position =>
        byteMatches (value position) (mask position) (input position) := by
  induction positions with
  | nil => rfl
  | cons position positions inductionHypothesis =>
      simp [bytesMatch, inductionHypothesis]

/-- Comparing the images of words that fit compares the words. -/
theorem bytesMatch_store
    {width count : Nat}
    (fits : width ≤ 8 * count)
    (value mask input : BitVec width) :
    bytesMatch (store count value) (store count mask) (store count input) = true ↔
      (value ^^^ input) &&& ~~~mask = BitVec.ofNat width 0 := by
  unfold store
  rw [bytesMatch_map, List.all_eq_true]
  constructor
  · intro bytes
    apply BitVec.eq_of_getLsbD_eq
    intro bit bound
    have position : bit / 8 < count := by omega
    have compared := bytes (bit / 8) (List.mem_range.mpr position)
    have atBit := congrArg (BitVec.getLsbD · (bit % 8)) (beq_iff_eq.mp compared)
    have split : 8 * (bit / 8) + bit % 8 = bit := Nat.div_add_mod bit 8
    have small : bit % 8 < 8 := Nat.mod_lt _ (by decide)
    simpa [split, small, bound] using atBit
  · intro equal position _
    apply beq_iff_eq.mpr
    apply BitVec.eq_of_getLsbD_eq
    intro bit bound
    have atBit := congrArg (BitVec.getLsbD · (8 * position + bit)) equal
    by_cases inside : 8 * position + bit < width
    · simpa [bound, inside] using atBit
    · simp [bound, BitVec.getLsbD_of_ge _ _ (not_lt.mp inside)]

/-- A mask of zeros compares everything. -/
theorem bytesMatch_exact
    {width count : Nat}
    (fits : width ≤ 8 * count)
    (value input : BitVec width) :
    bytesMatch (store count value) (List.replicate count 0#8)
      (store count input) = true ↔ value = input := by
  rw [← store_zero width count, bytesMatch_store fits]
  constructor
  · intro equal
    apply BitVec.xor_eq_zero_iff.mp
    simpa using equal
  · rintro rfl
    simp

end Ternary
end XpliantSwitchd
