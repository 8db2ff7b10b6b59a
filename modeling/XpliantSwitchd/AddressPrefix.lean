import XpliantSwitchd.Lib.InetText
import XpliantSwitchd.Routing.Defs

/-!
# Prefixes in text

This module embeds `ops_xp_string_to_prefix`.  The function keeps the length in an
unsigned byte before it compares it with the maximum, takes what `atoi` makes of any
text for a length, and takes the address whose number is the error value of
`inet_network` for an error.  `inet_network` itself is a parameter: its documentation
leaves open which texts beside the dotted quads it reads.
-/

namespace XpliantSwitchd
namespace AddressPrefix

open InetText Routing

/-- The number of bits of an address, which is also the largest prefix length. -/
def maxlen : Family → Nat
  | .ipv4 => 32
  | .ipv6 => 128

/-- What the caller's two pointers lead to. -/
structure Out (family : Family) where
  addr : BitVec (maxlen family)
  prefixlen : BitVec 8

/-- The text before the first `/`. -/
def addressPart (ipAddress : List Char) : List Char :=
  ipAddress.takeWhile (· != '/')

/-- The text after the first `/`, when there is one. -/
def lengthPart (ipAddress : List Char) : Option (List Char) :=
  match ipAddress.dropWhile (· != '/') with
  | [] => none
  | _ :: rest => some rest

/-- The value of `*prefixlen` when it is compared. -/
def readPrefixlen (family : Family) (ipAddress : List Char) : BitVec 8 :=
  match lengthPart ipAddress with
  | none => BitVec.ofNat 8 (maxlen family)
  | some text => (atoi text).setWidth 8

/-- The second half of `ops_xp_string_to_prefix`, which reads the address. -/
def readAddress (inetNetwork : List Char → BitVec 32) :
    (family : Family) → List Char → Out family → Option Errno × Out family
  | .ipv4, text, out =>
      if inetNetwork text = -1 then (some .EINVAL, { out with addr := inetNetwork text })
      else (none, { out with addr := inetNetwork text })
  | .ipv6, text, out =>
      match ipv6 text with
      | none => (some .EINVAL, out)
      | some addr => (none, { out with addr := addr })

/-- `ops_xp_string_to_prefix`. -/
def stringToPrefix (inetNetwork : List Char → BitVec 32) (family : Family)
    (ipAddress : List Char) (out : Out family) : Option Errno × Out family :=
  if maxlen family < (readPrefixlen family ipAddress).toNat then
    (some .EINVAL, { out with prefixlen := readPrefixlen family ipAddress })
  else
    readAddress inetNetwork family (addressPart ipAddress)
      { out with prefixlen := readPrefixlen family ipAddress }

/-- What the callers keep: the address as it lies in memory, an IPv4 address in the
order of a little-endian host, and the length. -/
def parsePrefix (inetNetwork : List Char → BitVec 32) (family : Family)
    (ipAddress : String) : Option (List UInt8 × Nat) :=
  match stringToPrefix inetNetwork family ipAddress.toList ⟨0, 0⟩ with
  | (some _, _) => none
  | (none, out) => some (addressBytes family out.addr, out.prefixlen.toNat)
where
  /-- `memcpy` from the address variable. -/
  addressBytes : (family : Family) → BitVec (maxlen family) → List UInt8
    | .ipv4, addr => (List.range 4).map fun index => ⟨addr.extractLsb' (8 * index) 8⟩
    | .ipv6, addr => (List.range 16).map fun index => ⟨addr.extractLsb' (8 * (15 - index)) 8⟩

/-! ## Valid texts -/

/-- The address that a text denotes. -/
def address : (family : Family) → List Char → Option (BitVec (maxlen family))
  | .ipv4, text => dottedQuad text
  | .ipv6, text => ipv6 text

/-- The prefix length that a text denotes: the maximum without a length part, and
otherwise the number of a decimal numeral up to the maximum. -/
def length (family : Family) : Option (List Char) → Option Nat
  | none => some (maxlen family)
  | some text => (numeral text).filter (· ≤ maxlen family)

/-- What is documented of `inet_network`: it returns the address of a dotted quad. -/
def ReadsQuads (inetNetwork : List Char → BitVec 32) : Prop :=
  ∀ text addr, dottedQuad text = some addr → inetNetwork text = addr

/-- A text is accepted exactly when it is valid, and then the caller gets the prefix
that it denotes. -/
structure Met (inetNetwork : List Char → BitVec 32) (family : Family)
    (ipAddress : List Char) : Prop where
  accepted : ∀ out, (stringToPrefix inetNetwork family ipAddress out).1 = none ↔
    (∃ addr, address family (addressPart ipAddress) = some addr) ∧
      ∃ len, length family (lengthPart ipAddress) = some len
  denoted : ∀ out addr len, address family (addressPart ipAddress) = some addr →
    length family (lengthPart ipAddress) = some len →
    (stringToPrefix inetNetwork family ipAddress out).2.addr = addr ∧
      (stringToPrefix inetNetwork family ipAddress out).2.prefixlen.toNat = len

/-- The integer at the start of the length part lies beyond the maximum, and so does
its remainder modulo 256 unless it is beyond 64 bits. -/
def TooLong (family : Family) (ipAddress : List Char) : Prop :=
  ∃ text, lengthPart ipAddress = some text ∧
    (2 ^ 63 ≤ leadingInt text ∨
      -2 ^ 63 ≤ leadingInt text ∧ (maxlen family : Int) < leadingInt text % 256)

/-- The address part is one that the library calls reject. -/
def Rejected (inetNetwork : List Char → BitVec 32) :
    (family : Family) → List Char → Prop
  | .ipv4, text => inetNetwork text = -1
  | .ipv6, text => ipv6 text = none

/-- The address part is an address other than `255.255.255.255`. -/
def Distinct : (family : Family) → List Char → Prop
  | .ipv4, text => ∃ addr, dottedQuad text = some addr ∧ addr ≠ -1
  | .ipv6, text => ∃ addr, ipv6 text = some addr

/-- The texts of which the function says the right thing: the length is too long in
the byte as well, the address is rejected and not for being `255.255.255.255` before a
valid length, or the text is a valid one with another address. -/
def Sound (inetNetwork : List Char → BitVec 32) (family : Family)
    (ipAddress : List Char) : Prop :=
  TooLong family ipAddress ∨
    (Rejected inetNetwork family (addressPart ipAddress) ∧
      (address family (addressPart ipAddress) = none ∨
        length family (lengthPart ipAddress) = none)) ∨
    (Distinct family (addressPart ipAddress) ∧
      ∃ len, length family (lengthPart ipAddress) = some len)

/-! ## The two halves of the function -/

section Parts

variable {inetNetwork : List Char → BitVec 32} {family : Family}
  {ipAddress text : List Char} {out : Out family}

/-- The length is refused exactly when it is too long. -/
theorem lt_readPrefixlen_iff :
    maxlen family < (readPrefixlen family ipAddress).toNat ↔ TooLong family ipAddress := by
  have bound : maxlen family ≤ 128 := by
    cases family <;> decide
  unfold readPrefixlen TooLong
  cases lengthPart ipAddress with
  | none =>
      have kept : (BitVec.ofNat 8 (maxlen family)).toNat = maxlen family :=
        Nat.mod_eq_of_lt (by omega)
      simp [kept]
  | some text =>
      have byte := toNat_setWidth_atoi text
      simp only [Option.some.injEq, exists_eq_left']
      rw [← Int.ofNat_lt, byte]
      split
      · rename_i large
        exact iff_of_true (by omega) (Or.inl large)
      · rename_i notLarge
        split
        · rename_i small
          apply iff_of_false (by omega)
          omega
        · rename_i notSmall
          constructor
          · intro exceeds
            exact Or.inr ⟨by omega, exceeds⟩
          · intro exceeds
            omega

/-- A valid length is the one that the function returns. -/
theorem readPrefixlen_of_length {len : Nat}
    (valid : length family (lengthPart ipAddress) = some len) :
    (readPrefixlen family ipAddress).toNat = len ∧ len ≤ maxlen family := by
  have bound : maxlen family ≤ 128 := by
    cases family <;> decide
  unfold readPrefixlen
  cases part : lengthPart ipAddress with
  | none =>
      rw [part] at valid
      have whole : maxlen family = len := Option.some.inj valid
      refine ⟨?_, by omega⟩
      rw [← whole]
      exact Nat.mod_eq_of_lt (by omega)
  | some text =>
      rw [part] at valid
      obtain ⟨proper, small⟩ := Option.filter_eq_some_iff.mp valid
      have within : len ≤ maxlen family := of_decide_eq_true small
      have byte := toNat_setWidth_atoi text
      rw [leadingInt_of_numeral proper] at byte
      refine ⟨?_, within⟩
      simp only
      split at byte <;> omega

/-- A valid length is not too long. -/
theorem not_tooLong_of_length {len : Nat}
    (valid : length family (lengthPart ipAddress) = some len) :
    ¬TooLong family ipAddress := by
  obtain ⟨read, within⟩ := readPrefixlen_of_length valid
  rw [← lt_readPrefixlen_iff, read]
  omega

@[simp] theorem readAddress_prefixlen :
    (readAddress inetNetwork family text out).2.prefixlen = out.prefixlen := by
  cases family with
  | ipv4 =>
      rw [readAddress]
      split <;> rfl
  | ipv6 =>
      rw [readAddress]
      split <;> rfl

theorem readAddress_eq_none_iff :
    (readAddress inetNetwork family text out).1 = none ↔
      ¬Rejected inetNetwork family text := by
  cases family with
  | ipv4 =>
      rw [readAddress, Rejected]
      split
      · rename_i refused
        exact iff_of_false (Option.some_ne_none _) (not_not_intro refused)
      · rename_i read
        exact iff_of_true rfl read
  | ipv6 =>
      rw [readAddress, Rejected]
      cases ipv6 text with
      | none => simp
      | some addr => simp

/-- An address that is accepted is the one that is stored. -/
theorem readAddress_addr
    (reads : ReadsQuads inetNetwork)
    {addr : BitVec (maxlen family)}
    (denotes : address family text = some addr) :
    (readAddress inetNetwork family text out).2.addr = addr := by
  cases family with
  | ipv4 =>
      have value : inetNetwork text = addr := reads text addr denotes
      rw [readAddress]
      split <;> exact value
  | ipv6 =>
      have parsed : ipv6 text = some addr := denotes
      rw [readAddress, parsed]

/-- Of the valid addresses, exactly `255.255.255.255` is rejected. -/
theorem not_rejected_iff_distinct
    (reads : ReadsQuads inetNetwork)
    {addr : BitVec (maxlen family)}
    (denotes : address family text = some addr) :
    ¬Rejected inetNetwork family text ↔ Distinct family text := by
  cases family with
  | ipv4 =>
      have value : inetNetwork text = addr := reads text addr denotes
      rw [Rejected, value, Distinct]
      constructor
      · intro other
        exact ⟨addr, denotes, other⟩
      · rintro ⟨same, quad, other⟩
        rw [Option.some.inj (denotes.symm.trans quad)]
        exact other
  | ipv6 =>
      have parsed : ipv6 text = some addr := denotes
      rw [Rejected, Distinct, parsed]
      exact iff_of_true (Option.some_ne_none addr) ⟨addr, rfl⟩

theorem exists_address_of_distinct (distinct : Distinct family text) :
    ∃ addr, address family text = some addr := by
  cases family with
  | ipv4 =>
      obtain ⟨addr, quad, -⟩ := distinct
      exact ⟨addr, quad⟩
  | ipv6 => exact distinct

/-- The function accepts what neither half refuses. -/
theorem stringToPrefix_eq_none_iff :
    (stringToPrefix inetNetwork family ipAddress out).1 = none ↔
      ¬TooLong family ipAddress ∧
        ¬Rejected inetNetwork family (addressPart ipAddress) := by
  unfold stringToPrefix
  split
  · rename_i exceeds
    simp [lt_readPrefixlen_iff.mp exceeds]
  · rename_i within
    rw [readAddress_eq_none_iff]
    simp [lt_readPrefixlen_iff.not.mp within]

/-- The length is stored even when the text is refused. -/
theorem stringToPrefix_prefixlen
    (inetNetwork : List Char → BitVec 32)
    (family : Family)
    (ipAddress : List Char)
    (out : Out family) :
    (stringToPrefix inetNetwork family ipAddress out).2.prefixlen =
      readPrefixlen family ipAddress := by
  unfold stringToPrefix
  split
  · rfl
  · exact readAddress_prefixlen

/-- What the function stores of a valid text. -/
theorem stringToPrefix_out
    (reads : ReadsQuads inetNetwork)
    {addr : BitVec (maxlen family)}
    {len : Nat}
    (denotes : address family (addressPart ipAddress) = some addr)
    (valid : length family (lengthPart ipAddress) = some len) :
    (stringToPrefix inetNetwork family ipAddress out).2.addr = addr ∧
      (stringToPrefix inetNetwork family ipAddress out).2.prefixlen.toNat = len := by
  have within := lt_readPrefixlen_iff.not.mpr (not_tooLong_of_length valid)
  refine ⟨?_, ?_⟩
  · unfold stringToPrefix
    rw [if_neg within]
    exact readAddress_addr reads denotes
  · rw [stringToPrefix_prefixlen]
    exact (readPrefixlen_of_length valid).1

end Parts

/-! ## When the function is right -/

/-- The function accepts exactly the valid texts, with their prefixes, on the texts
whose length is not mistaken and whose address is not taken for an error. -/
theorem stringToPrefix_met_iff
    (inetNetwork : List Char → BitVec 32)
    (reads : ReadsQuads inetNetwork)
    (family : Family)
    (ipAddress : List Char) :
    Met inetNetwork family ipAddress ↔ Sound inetNetwork family ipAddress := by
  constructor
  · intro met
    have accepted := (met.accepted ⟨0, 0⟩).symm.trans stringToPrefix_eq_none_iff
    by_cases tooLong : TooLong family ipAddress
    · exact Or.inl tooLong
    by_cases rejected : Rejected inetNetwork family (addressPart ipAddress)
    · right
      left
      refine ⟨rejected, ?_⟩
      by_contra valid
      rw [not_or, Option.eq_none_iff_forall_ne_some,
        Option.eq_none_iff_forall_ne_some] at valid
      push Not at valid
      exact (accepted.mp valid).2 rejected
    · obtain ⟨⟨addr, denotes⟩, valid⟩ := accepted.mpr ⟨tooLong, rejected⟩
      exact Or.inr (Or.inr ⟨(not_rejected_iff_distinct reads denotes).mp rejected, valid⟩)
  · intro sound
    refine ⟨?_, fun out addr len denotes valid => stringToPrefix_out reads denotes valid⟩
    intro out
    rw [stringToPrefix_eq_none_iff]
    constructor
    · rintro ⟨notTooLong, notRejected⟩
      cases sound with
      | inl tooLong => exact absurd tooLong notTooLong
      | inr rest =>
          cases rest with
          | inl refused => exact absurd refused.1 notRejected
          | inr proper => exact ⟨exists_address_of_distinct proper.1, proper.2⟩
    · rintro ⟨⟨addr, denotes⟩, len, valid⟩
      refine ⟨not_tooLong_of_length valid, ?_⟩
      rw [not_rejected_iff_distinct reads denotes]
      cases sound with
      | inl tooLong => exact absurd tooLong (not_tooLong_of_length valid)
      | inr rest =>
          cases rest with
          | inl refused =>
              cases refused.2 with
              | inl noAddress => exact absurd (denotes.symm.trans noAddress) (by simp)
              | inr noLength => exact absurd (valid.symm.trans noLength) (by simp)
          | inr proper => exact proper.1

/-- An `inet_network` that reads the dotted quads only. -/
def quadsOnly (text : List Char) : BitVec 32 :=
  (dottedQuad text).getD (-1)

theorem readsQuads_quadsOnly : ReadsQuads quadsOnly := by
  intro text addr denotes
  simp [quadsOnly, denotes]

theorem met_network : Met quadsOnly .ipv4 "10.1.2.0/24".toList :=
  (stringToPrefix_met_iff quadsOnly readsQuads_quadsOnly .ipv4 "10.1.2.0/24".toList).mpr
    (Or.inr (Or.inr ⟨⟨0x0a010200, by decide, by decide⟩, 24, by decide⟩))

/-- A length of 256 is read as zero, and `255.255.255.255` is refused. -/
theorem not_met_wrapped :
    ¬Met quadsOnly .ipv4 "10.1.2.0/256".toList ∧
      ¬Met quadsOnly .ipv4 "255.255.255.255/32".toList := by
  refine ⟨?_, ?_⟩
  · intro met
    have noLength : length .ipv4 (lengthPart "10.1.2.0/256".toList) = none := by decide
    obtain ⟨-, len, valid⟩ := (met.accepted ⟨0, 0⟩).mp (by decide)
    exact absurd (valid.symm.trans noLength) (Option.some_ne_none len)
  · intro met
    have accepted := (met.accepted ⟨0, 0⟩).mpr ⟨⟨-1, by decide⟩, 32, by decide⟩
    exact absurd accepted (by decide)

/-! ## What the callers get -/

/-- An IPv4 prefix in text. -/
def prefixText (addr : BitVec 32) (len : Nat) : List Char :=
  quadText addr ++ '/' :: Nat.toDigits 10 len

theorem ne_slash_of_mem_quadText (addr : BitVec 32) :
    ∀ char ∈ quadText addr, (char != '/') = true := by
  intro char member
  rw [bne_iff_ne]
  rintro rfl
  obtain dot | digit := eq_dot_or_isDigit_of_mem_quadText member
  · exact absurd dot (by decide)
  · exact absurd digit (by decide)

theorem addressPart_prefixText (addr : BitVec 32) (len : Nat) :
    addressPart (prefixText addr len) = quadText addr := by
  rw [addressPart, prefixText, List.takeWhile_append_of_pos (ne_slash_of_mem_quadText addr)]
  simp

theorem lengthPart_prefixText (addr : BitVec 32) (len : Nat) :
    lengthPart (prefixText addr len) = some (Nat.toDigits 10 len) := by
  rw [lengthPart, prefixText, List.dropWhile_append_of_pos (ne_slash_of_mem_quadText addr)]
  simp

/-- Every IPv4 prefix but those of `255.255.255.255` is read back from its text. -/
theorem parsePrefix_prefixText
    {inetNetwork : List Char → BitVec 32}
    (reads : ReadsQuads inetNetwork)
    {addr : BitVec 32}
    {len : Nat}
    (other : addr ≠ -1)
    (within : len ≤ 32) :
    parsePrefix inetNetwork .ipv4 (String.ofList (prefixText addr len)) =
      some (parsePrefix.addressBytes .ipv4 addr, len) := by
  have denotes : address .ipv4 (addressPart (prefixText addr len)) = some addr := by
    rw [addressPart_prefixText]
    exact dottedQuad_quadText addr
  have valid : length .ipv4 (lengthPart (prefixText addr len)) = some len := by
    rw [lengthPart_prefixText]
    simp [length, maxlen, within]
  have accepted : (stringToPrefix inetNetwork .ipv4 (prefixText addr len) ⟨0, 0⟩).1 = none := by
    rw [stringToPrefix_eq_none_iff, not_rejected_iff_distinct reads denotes,
      addressPart_prefixText]
    exact ⟨not_tooLong_of_length valid, addr, dottedQuad_quadText addr, other⟩
  unfold parsePrefix
  rw [String.toList_ofList]
  split
  · rename_i errno out refused
    exact absurd ((congrArg Prod.fst refused).symm.trans accepted) (Option.some_ne_none errno)
  · rename_i out result
    obtain ⟨stored, kept⟩ := @stringToPrefix_out inetNetwork .ipv4 (prefixText addr len)
      ⟨0, 0⟩ reads addr len denotes valid
    rw [result] at stored kept
    rw [stored, kept]

/-- The bytes of an IPv4 address, the lowest first. -/
theorem addressBytes_ipv4 (addr : BitVec 32) :
    parsePrefix.addressBytes .ipv4 addr =
      [⟨addr.extractLsb' 0 8⟩, ⟨addr.extractLsb' 8 8⟩, ⟨addr.extractLsb' 16 8⟩,
        ⟨addr.extractLsb' 24 8⟩] := rfl

/-- Whatever the text, a prefix that the callers get has an address of its family's
width and a length of at most that many bits. -/
theorem parsePrefix_wellFormed
    {inetNetwork : List Char → BitVec 32}
    {family : Family}
    {ipAddress : String}
    {bytes : List UInt8}
    {len : Nat}
    (parsed : parsePrefix inetNetwork family ipAddress = some (bytes, len)) :
    8 * bytes.length = maxlen family ∧ len ≤ maxlen family := by
  unfold parsePrefix at parsed
  split at parsed
  · cases parsed
  · rename_i out accepted
    obtain ⟨rfl, rfl⟩ := Prod.mk.inj (Option.some.inj parsed)
    refine ⟨?_, ?_⟩
    · cases family <;> rfl
    · have notTooLong := (stringToPrefix_eq_none_iff.mp (congrArg Prod.fst accepted)).1
      have kept := stringToPrefix_prefixlen inetNetwork family ipAddress.toList ⟨0, 0⟩
      rw [accepted] at kept
      rw [kept, ← not_lt, lt_readPrefixlen_iff]
      exact notTooLong

end AddressPrefix
end XpliantSwitchd
