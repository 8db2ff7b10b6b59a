import Mathlib.Data.Vector.Basic

/-!
# Common data of the plugin

Types of the XDK and of the switch daemon that several components share: MAC
addresses and their byte order, packet commands, return codes, and the entries
of the L3 next-hop and host tables.
-/

namespace XpliantSwitchd

/-- The `errno` values the plugin returns.  A return code is an
`Option Errno`, with `none` for `0`. -/
inductive Errno
  | EPERM | ENOENT | ENXIO | EAGAIN | ENOMEM | EACCES | EFAULT | EEXIST
  | EINVAL | ENODATA | EOPNOTSUPP | EPFNOSUPPORT | EHOSTDOWN | EHOSTUNREACH
  deriving DecidableEq, Repr

/-- A MAC address, byte `0` first. -/
abbrev MacAddr := Vector UInt8 6

/-- `ops_xp_mac_copy_and_reverse`: the XDK keeps MAC addresses in reverse byte
order. -/
def macCopyAndReverse (src : MacAddr) : MacAddr :=
  #v[src[5], src[4], src[3], src[2], src[1], src[0]]

/-- The first byte of an address. -/
def MacAddr.firstByte (mac : MacAddr) : UInt8 := mac[0]

/-- The last byte of an address. -/
def MacAddr.lastByte (mac : MacAddr) : UInt8 := mac[5]

/-- Write the last byte of an address. -/
def MacAddr.setLastByte (mac : MacAddr) (byte : UInt8) : MacAddr := mac.set 5 byte

@[simp] theorem macCopyAndReverse_macCopyAndReverse (mac : MacAddr) :
    macCopyAndReverse (macCopyAndReverse mac) = mac := by
  apply Vector.ext
  intro index bound
  match index with
  | 0 | 1 | 2 | 3 | 4 | 5 => rfl

theorem macCopyAndReverse_injective : Function.Injective macCopyAndReverse := by
  intro left right equal
  have reversed := congrArg macCopyAndReverse equal
  simpa using reversed

/-- The packet commands of the XDK that the plugin names. -/
inductive PktCmd
  | fwd | fwdMirror | trap | drop
  deriving DecidableEq, Repr

/-- `xpsL3NextHopEntry_t`: what the hardware does with a packet that selects
a next hop. -/
structure L3NextHopEntry where
  macDa : MacAddr
  egressIntfId : Nat
  l3InterfaceId : Nat
  serviceInstId : Nat
  pktCmd : PktCmd
  propTTL : Bool
  reasonCode : Nat
  deriving DecidableEq

/-- A conversion of an `int` to `size_t` on a 64-bit host. -/
def sizeT (value : Int) : Nat := (value % 2 ^ 64).toNat

end XpliantSwitchd
