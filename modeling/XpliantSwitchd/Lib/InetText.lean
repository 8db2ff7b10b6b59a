import Mathlib.Algebra.Group.Int.Defs
import Mathlib.Algebra.Group.Nat.Defs
import Mathlib.Data.List.TakeWhile
import Mathlib.Data.Nat.Basic
import Mathlib.Order.MinMax

/-!
# Numbers and internet addresses in text

Decimal numerals and the conversion `atoi`, which reads a number at the start of any
text; IPv4 addresses as dotted quads and IPv6 addresses as colon-separated groups.
A text is a list of characters without a terminator.
-/

namespace XpliantSwitchd
namespace InetText

/-! ## Numerals -/

/-- The number that a text of decimal digits denotes. -/
def decimal (digits : List Char) : Nat :=
  Nat.ofDigitChars 10 digits 0

/-- A decimal numeral is one digit or more, and nothing else. -/
def numeral (text : List Char) : Option Nat :=
  if text ≠ [] ∧ text.all Char.isDigit then some (decimal text) else none

/-- `isspace` of the C locale. -/
def isSpace (char : Char) : Bool :=
  char == ' ' || (9 ≤ char.toNat && char.toNat ≤ 13)

/-- The integer at the start of a text: white space, a sign and digits, of which the
digits may be missing and then count as zero. -/
def leadingInt (text : List Char) : Int :=
  match text.dropWhile isSpace with
  | '-' :: rest => -(decimal (rest.takeWhile Char.isDigit) : Int)
  | '+' :: rest => decimal (rest.takeWhile Char.isDigit)
  | rest => decimal (rest.takeWhile Char.isDigit)

/-- `strtol` in base ten, on a `long` of 64 bits. -/
def strtol (text : List Char) : BitVec 64 :=
  BitVec.ofInt 64 (max (-2 ^ 63) (min (2 ^ 63 - 1) (leadingInt text)))

/-- `atoi`. -/
def atoi (text : List Char) : BitVec 32 :=
  (strtol text).setWidth 32

theorem numeral_eq_some_iff {text : List Char} {value : Nat} :
    numeral text = some value ↔
      text ≠ [] ∧ text.all Char.isDigit = true ∧ decimal text = value := by
  unfold numeral
  split
  · rename_i digits
    simp [digits.1, digits.2]
  · rename_i other
    simp only [reduceCtorEq, false_iff]
    intro digits
    exact other ⟨digits.1, digits.2.1⟩

/-- Every number has a numeral. -/
@[simp] theorem numeral_toDigits (value : Nat) :
    numeral (Nat.toDigits 10 value) = some value := by
  apply numeral_eq_some_iff.mpr
  refine ⟨Nat.toDigits_ne_nil, ?_, Nat.ofDigitChars_ten_toDigits⟩
  rw [List.all_eq_true]
  intro char member
  exact Nat.isDigit_of_mem_toDigits (by decide) (by decide) member

/-- A digit is neither white space nor a sign. -/
theorem not_space_of_isDigit {char : Char} (digit : char.isDigit = true) :
    isSpace char = false ∧ char ≠ '-' ∧ char ≠ '+' := by
  have range : 48 ≤ char.toNat ∧ char.toNat ≤ 57 := Char.isDigit_iff_toNat.mp digit
  have differs : ∀ other : Char, other.toNat < 48 → char ≠ other := by
    intro other below equal
    rw [equal] at range
    omega
  refine ⟨?_, differs '-' (by decide), differs '+' (by decide)⟩
  have notBlank : char ≠ ' ' := differs ' ' (by decide)
  have above : ¬char.toNat ≤ 13 := by omega
  simp [isSpace, notBlank, above]

/-- A numeral is read for what it denotes. -/
theorem leadingInt_of_numeral {text : List Char} {value : Nat}
    (proper : numeral text = some value) :
    leadingInt text = value := by
  obtain ⟨nonempty, digits, denotes⟩ := numeral_eq_some_iff.mp proper
  cases text with
  | nil => exact absurd rfl nonempty
  | cons first rest =>
      have firstDigit : first.isDigit = true := by
        rw [List.all_cons, Bool.and_eq_true] at digits
        exact digits.1
      obtain ⟨notSpace, notMinus, notPlus⟩ := not_space_of_isDigit firstDigit
      have kept : (first :: rest).dropWhile isSpace = first :: rest := by
        simp [notSpace]
      have taken : (first :: rest).takeWhile Char.isDigit = first :: rest := by
        rw [List.takeWhile_eq_self_iff]
        exact List.all_eq_true.mp digits
      unfold leadingInt
      rw [kept]
      split
      · rename_i equal
        exact absurd (List.cons.inj equal).1 notMinus
      · rename_i equal
        exact absurd (List.cons.inj equal).1 notPlus
      · rw [taken, denotes]

/-- The low byte of what `atoi` returns, a number beyond 64 bits being replaced by the
nearest one of them first. -/
theorem toNat_setWidth_atoi (text : List Char) :
    (((atoi text).setWidth 8).toNat : Int) =
      if 2 ^ 63 ≤ leadingInt text then 255
      else if leadingInt text < -2 ^ 63 then 0
      else leadingInt text % 256 := by
  unfold atoi strtol
  rw [BitVec.toNat_setWidth, BitVec.toNat_setWidth, BitVec.toNat_ofInt]
  split
  · rename_i large
    rw [min_eq_left (by omega), max_eq_right (by omega)]
    decide
  · rename_i notLarge
    rw [min_eq_right (by omega)]
    split
    · rename_i small
      rw [max_eq_left (by omega)]
      decide
    · rw [max_eq_right (by omega)]
      omega

/-! ## IPv4 -/

/-- One part of a dotted quad: a number below 256 without superfluous zeros. -/
def octet (text : List Char) : Option (BitVec 8) :=
  match numeral text with
  | some value =>
      if value < 256 ∧ text = Nat.toDigits 10 value then some (BitVec.ofNat 8 value)
      else none
  | none => none

/-- A dotted quad, and the address it denotes, the first part highest. -/
def dottedQuad (text : List Char) : Option (BitVec 32) :=
  match (text.splitOn '.').mapM octet with
  | some [first, second, third, fourth] => some (first ++ second ++ third ++ fourth)
  | _ => none

/-- The parts of an address, the highest first. -/
def octets (addr : BitVec 32) : List (BitVec 8) :=
  [addr.extractLsb' 24 8, addr.extractLsb' 16 8, addr.extractLsb' 8 8,
    addr.extractLsb' 0 8]

/-- The dotted quad of an address. -/
def quadText (addr : BitVec 32) : List Char :=
  ['.'].intercalate ((octets addr).map fun part => Nat.toDigits 10 part.toNat)

@[simp] theorem octet_toDigits (part : BitVec 8) :
    octet (Nat.toDigits 10 part.toNat) = some part := by
  have small := part.isLt
  unfold octet
  rw [numeral_toDigits]
  simp [small]

/-- Any of the addresses is denoted by a dotted quad. -/
theorem dottedQuad_quadText (addr : BitVec 32) :
    dottedQuad (quadText addr) = some addr := by
  have noDots : ∀ text ∈ (octets addr).map fun part => Nat.toDigits 10 part.toNat,
      '.' ∉ text := by
    intro text member dot
    obtain ⟨part, -, rfl⟩ := List.mem_map.mp member
    exact absurd (Nat.isDigit_of_mem_toDigits (by decide) (by decide) dot) (by decide)
  unfold dottedQuad quadText
  rw [List.splitOn_intercalate '.' noDots (by simp [octets])]
  simp only [octets, List.map_cons, List.map_nil, List.mapM_cons, List.mapM_nil,
    octet_toDigits, Option.pure_def, Option.bind_eq_bind, Option.bind_some]
  congr 1
  apply BitVec.eq_of_getLsbD_eq
  intro position inside
  simp only [BitVec.getLsbD_append, BitVec.getLsbD_extractLsb']
  grind

theorem eq_dot_or_isDigit_of_mem_quadText {addr : BitVec 32} {char : Char}
    (member : char ∈ quadText addr) :
    char = '.' ∨ char.isDigit = true := by
  have digits : ∀ part : BitVec 8, char ∈ Nat.toDigits 10 part.toNat →
      char.isDigit = true :=
    fun part => Nat.isDigit_of_mem_toDigits (by decide) (by decide)
  simp only [quadText, octets, List.map_cons, List.map_nil, List.intercalate_cons_cons,
    List.intercalate_singleton, List.mem_append, List.mem_singleton] at member
  grind

/-! ## IPv6 -/

/-- The value of a hexadecimal digit. -/
def hexDigit (char : Char) : Option Nat :=
  if char.isDigit then some (char.toNat - 48)
  else if 'a' ≤ char ∧ char ≤ 'f' then some (char.toNat - 87)
  else if 'A' ≤ char ∧ char ≤ 'F' then some (char.toNat - 55)
  else none

/-- A group: one to four hexadecimal digits. -/
def group (text : List Char) : Option (BitVec 16) :=
  if 1 ≤ text.length ∧ text.length ≤ 4 then
    (text.mapM hexDigit).map fun digits =>
      BitVec.ofNat 16 (digits.foldl (fun value digit => 16 * value + digit) 0)
  else none

/-- Groups of which the last two may be written as a dotted quad. -/
def groups : List (List Char) → Option (List (BitVec 16))
  | [] => some []
  | [text] =>
      match group text with
      | some value => some [value]
      | none => (dottedQuad text).map fun addr =>
          [addr.extractLsb' 16 16, addr.extractLsb' 0 16]
  | text :: texts => do
      let value ← group text
      let values ← groups texts
      some (value :: values)

/-- The text before the first `::`, and the text after it when there is one. -/
def elision : List Char → List Char × Option (List Char)
  | [] => ([], none)
  | ':' :: ':' :: rest => ([], some rest)
  | char :: rest => (char :: (elision rest).1, (elision rest).2)

/-- The parts between colons.  An empty text has none. -/
def parts (text : List Char) : List (List Char) :=
  if text = [] then [] else text.splitOn ':'

/-- The address of eight groups, the first highest. -/
def joinGroups (values : List (BitVec 16)) : BitVec 128 :=
  BitVec.ofNat 128 (values.foldl (fun value group => 2 ^ 16 * value + group.toNat) 0)

/-- An IPv6 address in text: eight groups, of which one run or more may be replaced
by `::`. -/
def ipv6 (text : List Char) : Option (BitVec 128) :=
  match elision text with
  | (whole, none) => do
      let values ← groups (parts whole)
      if values.length = 8 then some (joinGroups values) else none
  | (before, some after) => do
      let high ← (parts before).mapM group
      let low ← groups (parts after)
      if high.length + low.length < 8 then
        some (joinGroups (high ++ List.replicate (8 - (high.length + low.length)) 0 ++ low))
      else none

example : dottedQuad "10.1.2.3".toList = some 0x0a010203 := by decide
example : dottedQuad "010.1.2.3".toList = none := by decide
example : ipv6 "2001:db8::10.0.0.1".toList =
    some 0x20010db80000000000000000_0a000001 := by decide
example : ipv6 "1:2:3:4:5:6:7:8::".toList = none := by decide

end InetText
end XpliantSwitchd
