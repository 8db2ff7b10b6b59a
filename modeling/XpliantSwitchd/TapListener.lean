import XpliantSwitchd.HostTap

/-!
# Packets from TAP interfaces

This module embeds `tap_listener` and `ops_xp_dev_send`.  The result of a read is an
`int`, the length of a packet a `uint16_t`, and so is the size of the buffer that the
packet is built in.  A read that fails with `EWOULDBLOCK` is not filtered out.
-/

namespace XpliantSwitchd
namespace HostTap

/-- `RX_MAX_FRM_LEN_MAX_VAL`: the size of the receive buffer. -/
def rxMaxFrmLen : Nat := 16384

/-- The values of `errno` that the listener tells apart. -/
inductive ReadErrno
  | EINTR | EWOULDBLOCK | other (code : Nat)
  deriving DecidableEq

/-- The result of `read`: at most as many bytes as were asked for, or `-1`. -/
inductive ReadResult
  | count (bytes : Fin (rxMaxFrmLen + 1))
  | error (errno : ReadErrno)
  deriving DecidableEq

/-- The `int` that `read` returns. -/
def ReadResult.bytesRecv : ReadResult → Int
  | .count bytes => bytes
  | .error _ => -1

/-- The number of bytes that were read. -/
def ReadResult.bytesRead : ReadResult → Nat
  | .count bytes => bytes
  | .error _ => 0

/-- The loop around `read`, over the results of its attempts. -/
def tapRead : List ReadResult → Option ReadResult
  | [] => none
  | .error .EINTR :: attempts => tapRead attempts
  | result :: _ => some result

/-- A descriptor that `select` reports: the attempts to read from it, the maps at that
time, and the times of the two calls of `gettimeofday` in microseconds. -/
structure Ready where
  fd : Nat
  attempts : List ReadResult
  info : TapInfo
  initTime : Int
  curTime : Int

/-- A call of `ops_xp_dev_send`, with the result of the read before it. -/
structure Sending where
  result : ReadResult
  egressIfId : IfId
  buffSize : BitVec 16
  deriving DecidableEq

/-- What becomes of a descriptor: the listener ends, or it goes on with the time at
which it started, and may have sent a packet. -/
inductive Handled
  | ends
  | continues (initTime : Option Int) (sending : Option Sending)
  deriving DecidableEq

/-- The body of the loop of `tap_listener` over the descriptors. -/
def tapHandle (exitFd ifUpdFd : Nat) (initTime : Option Int) (ready : Ready) : Handled :=
  match tapRead ready.attempts with
  | none => .ends
  | some result =>
      if result.bytesRecv < 0 ∧ result ≠ .error .EWOULDBLOCK then .continues initTime none
      else if ready.fd = exitFd then .ends
      else if ready.fd = ifUpdFd then .continues initTime none
      else
        match tapGetIfEntryByFd ready.info ready.fd with
        | none => .continues initTime none
        | some ifEntry =>
            if !ifEntry.filterCreated then .continues initTime none
            else
              let started := initTime.getD ready.initTime
              if (ready.curTime - started) / 1000000 < 5 then .continues (some started) none
              else
                .continues (some started)
                  (some ⟨result, ifEntry.sendIfId, BitVec.ofInt 16 result.bytesRecv⟩)

/-- `tap_listener`: the packets that it sends, over the descriptors of one `select`
after the other. -/
def tapListener (exitFd ifUpdFd : Nat) : Option Int → List Ready → List Sending
  | _, [] => []
  | initTime, ready :: later =>
      match tapHandle exitFd ifUpdFd initTime ready with
      | .ends => []
      | .continues initTime sending =>
          sending.toList ++ tapListener exitFd ifUpdFd initTime later

/-- The buffer that `ops_xp_dev_send` allocates, and its accesses: `memcpy` of
`copyLength` bytes to `copyStart`, and `memset` of the second number of bytes from the
first one on. -/
structure Packet where
  bufSize : Nat
  copyStart : Nat
  copyLength : Nat
  pad : Option (Nat × Nat)
  deriving DecidableEq

/-- `ops_xp_dev_send` on a buffer that is not null: whether the interface of the CPU
port is found and whether the packet is sent are answers of the XDK. -/
def devSend (cpuPort sends : Bool) (txHdrSize : Nat) (buffSize : BitVec 16) :
    Option Errno × Option Packet :=
  if !cpuPort then (some .EPERM, none)
  else
    let pktSize := if buffSize.toNat < 64 then 64 else buffSize.toNat
    let pktSize := (pktSize + txHdrSize) % 2 ^ 16
    let packet : Packet :=
      { bufSize := pktSize
        copyStart := txHdrSize
        copyLength := buffSize.toNat
        pad := if buffSize.toNat < 64 then
            some (txHdrSize + buffSize.toNat, 64 - buffSize.toNat)
          else none }
    if !sends then (some .EAGAIN, some packet) else (none, some packet)

/-! ## Packets that fit -/

/-- The accesses stay inside the packet and inside the receive buffer. -/
structure Packet.InBounds (packet : Packet) : Prop where
  copied : packet.copyStart + packet.copyLength ≤ packet.bufSize
  padded : ∀ pad ∈ packet.pad, pad.1 + pad.2 ≤ packet.bufSize
  source : packet.copyLength ≤ rxMaxFrmLen

/-- The length is the number of bytes read, and for every answer of the XDK the packet
has the size for it and is built inside its buffers. -/
structure SendMet (txHdrSize : Nat) (sending : Sending) : Prop where
  length : sending.buffSize.toNat = sending.result.bytesRead
  built : ∀ cpuPort sends packet,
    (devSend cpuPort sends txHdrSize sending.buffSize).2 = some packet →
      packet.bufSize = txHdrSize + max 64 sending.buffSize.toNat ∧ packet.InBounds

/-- The length that is passed on. -/
theorem toNat_ofInt_bytesRecv (result : ReadResult) :
    (BitVec.ofInt 16 result.bytesRecv).toNat =
      match result with
      | .count bytes => bytes
      | .error _ => 65535 := by
  cases result with
  | count bytes =>
      have bounded := bytes.isLt
      unfold rxMaxFrmLen at bounded
      simp only [ReadResult.bytesRecv, BitVec.toNat_ofInt]
      omega
  | error errno => rfl

/-- What is known of a packet that is sent: its read succeeded or would have blocked,
and its length is the result of the read. -/
structure Received (sending : Sending) : Prop where
  buffSize : sending.buffSize = BitVec.ofInt 16 sending.result.bytesRecv
  result : 0 ≤ sending.result.bytesRecv ∨ sending.result = .error .EWOULDBLOCK

theorem received_of_tapHandle
    {exitFd ifUpdFd : Nat}
    {initTime started : Option Int}
    {ready : Ready}
    {sending : Sending}
    (handled : tapHandle exitFd ifUpdFd initTime ready = .continues started (some sending)) :
    Received sending := by
  unfold tapHandle at handled
  split at handled
  · contradiction
  · rename_i result read
    split at handled
    · cases handled
    · rename_i kept
      split at handled
      · contradiction
      split at handled
      · cases handled
      split at handled
      · cases handled
      split at handled
      · cases handled
      simp only at handled
      split at handled
      · cases handled
      · cases handled
        refine ⟨rfl, ?_⟩
        by_contra neither
        push Not at neither
        exact kept neither

theorem received_of_mem
    {exitFd ifUpdFd : Nat}
    {initTime : Option Int}
    {readies : List Ready}
    {sending : Sending}
    (member : sending ∈ tapListener exitFd ifUpdFd initTime readies) :
    Received sending := by
  induction readies generalizing initTime with
  | nil => exact absurd member List.not_mem_nil
  | cons ready later inductionHypothesis =>
      unfold tapListener at member
      cases handled : tapHandle exitFd ifUpdFd initTime ready with
      | ends =>
          rw [handled] at member
          exact absurd member List.not_mem_nil
      | continues started sent =>
          rw [handled] at member
          rcases List.mem_append.mp member with own | others
          · cases Option.mem_toList.mp own
            exact received_of_tapHandle handled
          · exact inductionHypothesis others

/-- A length up to the size of the receive buffer leads to a packet that fits. -/
theorem packet_fits
    {cpuPort sends : Bool}
    {txHdrSize : Nat}
    {buffSize : BitVec 16}
    {packet : Packet}
    (fits : txHdrSize ≤ rxMaxFrmLen)
    (bounded : buffSize.toNat ≤ rxMaxFrmLen)
    (built : (devSend cpuPort sends txHdrSize buffSize).2 = some packet) :
    packet.bufSize = txHdrSize + max 64 buffSize.toNat ∧ packet.InBounds := by
  have size : ((if buffSize.toNat < 64 then 64 else buffSize.toNat) + txHdrSize) % 2 ^ 16 =
      txHdrSize + max 64 buffSize.toNat := by
    unfold rxMaxFrmLen at fits bounded
    split <;> omega
  have same : packet =
      { bufSize := txHdrSize + max 64 buffSize.toNat
        copyStart := txHdrSize
        copyLength := buffSize.toNat
        pad := if buffSize.toNat < 64 then
            some (txHdrSize + buffSize.toNat, 64 - buffSize.toNat)
          else none } := by
    unfold devSend at built
    simp only [size] at built
    cases cpuPort with
    | false => contradiction
    | true => cases sends <;> exact (Option.some.inj built).symm
  rw [same]
  refine ⟨rfl, ?_, ?_, ?_⟩
  · simp only
    omega
  · intro pad isPad
    simp only at isPad ⊢
    split at isPad
    · cases isPad
      simp only
      omega
    · cases isPad
  · exact bounded

/-- Whatever the listener reads and sends, the packet is sent with its own length and
built inside its buffers if and only if the read did not fail with `EWOULDBLOCK`. -/
theorem sendMet_iff_of_mem
    {exitFd ifUpdFd : Nat}
    {initTime : Option Int}
    {readies : List Ready}
    {sending : Sending}
    {txHdrSize : Nat}
    (member : sending ∈ tapListener exitFd ifUpdFd initTime readies)
    (fits : txHdrSize ≤ rxMaxFrmLen) :
    SendMet txHdrSize sending ↔ sending.result ≠ .error .EWOULDBLOCK := by
  have received := received_of_mem member
  have length := toNat_ofInt_bytesRecv sending.result
  rw [← received.buffSize] at length
  constructor
  · intro met wouldBlock
    have passed := met.length
    rw [length, wouldBlock] at passed
    contradiction
  · intro read
    have counted := received.result.resolve_right read
    cases result : sending.result with
    | error errno =>
        rw [result] at counted
        contradiction
    | count bytes =>
        rw [result] at length
        have bounded : sending.buffSize.toNat ≤ rxMaxFrmLen := by
          rw [length]
          exact Nat.le_of_lt_succ bytes.isLt
        refine ⟨?_, fun _ _ _ => packet_fits fits bounded⟩
        rw [length, result]
        rfl

/-- A TAP interface with a filter, which becomes ready ten seconds after the start. -/
def sampleReady (attempts : List ReadResult) : Ready where
  fd := 7
  attempts := attempts
  info := { tapInit with fdToTapIfMap := [⟨0, 1, 1, 7, "tap1", true⟩] }
  initTime := 0
  curTime := 10000000

/-- A packet of 60 bytes, read at the second attempt. -/
theorem sendMet_sampleReady :
    SendMet 24 ⟨.count 60, 1, 60⟩ :=
  (@sendMet_iff_of_mem 3 5 (some 0) [sampleReady [.error .EINTR, .count 60]]
    ⟨.count 60, 1, 60⟩ 24 (by decide) (by decide)).mpr (by decide)

/-- A spurious wake-up sends 65535 bytes from a packet buffer of 23. -/
theorem not_sendMet_wouldBlock :
    ⟨.error .EWOULDBLOCK, 1, 65535⟩ ∈
        tapListener 3 5 (some 0) [sampleReady [.error .EWOULDBLOCK]] ∧
      (devSend true true 24 65535).2 = some ⟨23, 24, 65535, none⟩ ∧
      ¬SendMet 24 ⟨.error .EWOULDBLOCK, 1, 65535⟩ := by
  refine ⟨by decide, by decide, ?_⟩
  intro met
  exact absurd met.length (by decide)

end HostTap
end XpliantSwitchd
