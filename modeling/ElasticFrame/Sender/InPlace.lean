import ElasticFrame.Lib.Memory
import ElasticFrame.Sender.Fragments

/-!
# The Sender That Does Not Copy

`destructivePackAndSendFromPtr` writes each header over the memory in front of the data it
belongs to, where the data of the fragment before was, and hands a pointer to the send function.
What the send function sees is the memory at the time of the call, so the order of the writes and
the calls matters. The fields of a header are assigned one by one, so the padding of a type2 header
is what stood in the memory.

- `Sender.destructivePackAndSendFromPtr`: the function, with the memory it works on
- `Sender.destructivePackAndSendFromPtr_iff`: up to the padding it hands out what
  `packAndSendFromPtr` would have sent, and when it does so byte for byte
-/

namespace ElasticFrame

open ElasticFrame.Lib

/-! ## §1 Arguments and headers -/

/-- The arguments of a call behind the pointer to the data and its size. -/
structure Values where
  lDataContent : UInt8
  lPts : UInt64
  lDts : UInt64
  lCode : UInt32
  lStreamID : UInt8
  lFlags : UInt8

/-- The call of the copying sender with the same values. -/
def Values.call (v : Values) (rPacket : List UInt8) : Call where
  rPacket
  lDataContent := v.lDataContent
  lPts := v.lPts
  lDts := v.lDts
  lCode := v.lCode
  lStreamID := v.lStreamID
  lFlags := v.lFlags

namespace Sender

variable (s : Sender) (v : Values)

def type1Header (lFragmentNo lOfFragmentNo : UInt16) : ElasticFrameType1 where
  hFrameType := Frametype.type1.value ||| v.lFlags &&& 0xf0
  hStream := v.lStreamID
  hSuperFrameNo := s.mSuperFrameNoGenerator
  hFragmentNo := lFragmentNo
  hOfFragmentNo := lOfFragmentNo

def type2Header (lOfFragmentNo hType1PacketSize : UInt16) (lDataSize : ℕ) : ElasticFrameType2 where
  hFrameType := Frametype.type2.value ||| v.lFlags &&& 0xf0
  hStreamID := v.lStreamID
  hDataContent := v.lDataContent
  hSizeOfData := UInt16.ofNat lDataSize
  hSuperFrameNo := s.mSuperFrameNoGenerator
  hOfFragmentNo := lOfFragmentNo
  hType1PacketSize
  hPts := v.lPts
  hDtsPtsDiff := (v.lPts - v.lDts).toUInt32
  hCode := v.lCode

def type3Header (lOfFragmentNo : UInt16) : ElasticFrameType3 where
  hFrameType := Frametype.type3.value ||| v.lFlags &&& 0xf0
  hStreamID := v.lStreamID
  hSuperFrameNo := s.mSuperFrameNoGenerator
  hType1PacketSize := UInt16.ofNat (s.mCurrentMTU.toNat - ElasticFrameType1.size)
  hOfFragmentNo := lOfFragmentNo

/-! ## §2 `destructivePackAndSendFromPtr` -/

/-- What a call gives back, and the memory behind it. `packets` is what the send function saw, read
    when it was called. -/
structure PackedInPlace where
  message : ElasticFrameMessages
  sender : Sender
  packets : List (List UInt8)
  memory : Memory

/-- The fields of a type2 header are assigned at an address. The padding stays as it is. -/
def assignType2 (memory : Memory) (pType2Frame : ℕ) (h : ElasticFrameType2) : Memory :=
  memory.write pType2Frame
    (h.toBytes (.ofBytes (memory.read pType2Frame ElasticFrameType2.size)))

/-- The loop over the type1 packets, with the number of rounds that are left. -/
def destructiveType1Loop (s : Sender) (v : Values) (pPacket : ℕ) (lOfFragmentNo : UInt16)
    (lDataPayloadType1 : ℕ) : ℕ → UInt16 → ℕ → Memory → List (List UInt8) × Memory
  | 0, _, _, memory => ([], memory)
  | rounds + 1, lFragmentNo, lDataPointer, memory =>
      let pType1Frame := pPacket - ElasticFrameType1.size + lDataPointer
      let memory' := memory.write pType1Frame (s.type1Header v lFragmentNo lOfFragmentNo).toBytes
      let later := s.destructiveType1Loop v pPacket lOfFragmentNo lDataPayloadType1 rounds
        (lFragmentNo + 1) (lDataPointer + lDataPayloadType1) memory'
      (memory'.read pType1Frame s.mCurrentMTU.toNat :: later.1, later.2)

/-- The part of `destructivePackAndSendFromPtr` behind its checks, for a superframe that does not
    fit the MTU. -/
def destructiveFragmentAndSend (memory : Memory) (pPacket lPacketSize : ℕ) : PackedInPlace :=
  let mtu := s.mCurrentMTU.toNat
  let lDataPayloadType1 := (UInt16.ofNat (mtu - ElasticFrameType1.size)).toNat
  let lDataPayloadType2 := (UInt16.ofNat (mtu - ElasticFrameType2.size)).toNat
  let lOfFragmentNoType1 := UInt16.ofNat (lPacketSize / (mtu - ElasticFrameType1.size))
  let lReminderData := lPacketSize - lOfFragmentNoType1.toNat * lDataPayloadType1
  let lType3needed : Bool := lDataPayloadType2 < lReminderData
  let lOfFragmentNo := if lType3needed then lOfFragmentNoType1 + 1 else lOfFragmentNoType1
  let type1s := s.destructiveType1Loop v pPacket lOfFragmentNo lDataPayloadType1
    lOfFragmentNoType1.toNat 0 0 memory
  let lDataPointer := lOfFragmentNoType1.toNat * lDataPayloadType1
  let lFragmentNo := if lType3needed then lOfFragmentNoType1 + 1 else lOfFragmentNoType1
  let pType3Frame := pPacket - ElasticFrameType3.size + lDataPointer
  let memory3 :=
    if lType3needed then type1s.2.write pType3Frame (s.type3Header v lOfFragmentNo).toBytes
    else type1s.2
  let type3s :=
    if lType3needed then [memory3.read pType3Frame (lReminderData + ElasticFrameType3.size)]
    else []
  let lDataPointer' := if lType3needed then lDataPointer + lReminderData else lDataPointer
  let lDataLeftToSend := lPacketSize - lDataPointer'
  if lType3needed ∧ lDataPointer' ≠ lPacketSize then
    { message := .internalCalculationError, sender := s, packets := type1s.1, memory := memory3 }
  else if (lType3needed ∧ lDataLeftToSend ≠ 0) ∨ mtu < lDataLeftToSend + ElasticFrameType2.size ∨
      lOfFragmentNo ≠ lFragmentNo then
    { message := .internalCalculationError
      sender := s
      packets := type1s.1 ++ type3s
      memory := memory3 }
  else
    let pType2Frame := pPacket - ElasticFrameType2.size + lDataPointer'
    let memory2 := assignType2 memory3 pType2Frame (s.type2Header v lOfFragmentNo
      (UInt16.ofNat (mtu - ElasticFrameType1.size)) lDataLeftToSend)
    { message := .noError
      sender := { s with mSuperFrameNoGenerator := s.mSuperFrameNoGenerator + 1 }
      packets := type1s.1 ++ type3s ++
        [memory2.read pType2Frame (lDataLeftToSend + ElasticFrameType2.size)]
      memory := memory2 }

/-- `destructivePackAndSendFromPtr`, on a superframe of `lPacketSize` bytes at `pPacket`. -/
def destructivePackAndSendFromPtr (memory : Memory) (pPacket lPacketSize : ℕ) : PackedInPlace :=
  let refuse (message : ElasticFrameMessages) : PackedInPlace :=
    { message, sender := s, packets := [], memory }
  if v.lPts = UINT64_MAX then refuse .reservedPTSValue
  else if v.lDts = UINT64_MAX then refuse .reservedDTSValue
  else if v.lCode.toNat = UINT32_MAX then refuse .reservedCodeValue
  else if v.lStreamID = 0 ∧ v.lDataContent ≠ ElasticFrameContent.efpsig then
    refuse .reservedStreamValue
  else if UINT32_MAX ≤ (v.lPts - v.lDts).toNat then refuse .dtsptsDiffToLarge
  else if s.limit < lPacketSize then refuse .tooLargeFrame
  else if lPacketSize + ElasticFrameType2.size ≤ s.mCurrentMTU.toNat then
    let pType2Frame := pPacket - ElasticFrameType2.size
    let memory' := assignType2 memory pType2Frame
      (s.type2Header v 0 (UInt16.ofNat lPacketSize) lPacketSize)
    { message := .noError
      sender := { s with mSuperFrameNoGenerator := s.mSuperFrameNoGenerator + 1 }
      packets := [memory'.read pType2Frame (lPacketSize + ElasticFrameType2.size)]
      memory := memory' }
  else s.destructiveFragmentAndSend v memory pPacket lPacketSize

/-! ## §3 One header in front of its data -/

section Headers

variable {v}
variable {memory : Memory} {pPacket : ℕ} {data : List UInt8}
  (hroom : ElasticFrameType2.size ≤ pPacket)

include hroom

/-- The data from `lDataPointer` on is in the memory, and a header is written in front of it: the
    send function sees the header and the data, and nothing behind the header changes. -/
private theorem written_header {header : List UInt8} {size lDataPointer n : ℕ}
    (hlength : header.length = size) (hsize : size ≤ ElasticFrameType2.size)
    (hholds : memory.Holds (pPacket + lDataPointer) (data.drop lDataPointer))
    (hfits : lDataPointer + n ≤ data.length) :
    let memory' := memory.write (pPacket - size + lDataPointer) header
    memory'.read (pPacket - size + lDataPointer) (n + size) =
        header ++ (data.drop lDataPointer).take n ∧
      memory'.Holds (pPacket + (lDataPointer + n)) (data.drop (lDataPointer + n)) ∧
      Memory.SameOutside (pPacket - ElasticFrameType2.size) (pPacket + data.length)
        memory memory' := by
  intro memory'
  have hbehind : pPacket - size + lDataPointer + header.length = pPacket + lDataPointer := by omega
  have hdrop : (data.drop lDataPointer).length = data.length - lDataPointer := List.length_drop
  refine ⟨?_, ?_, ?_⟩
  · have hread := memory.read_write_append (pPacket - size + lDataPointer) header n
    have hslice : memory.read (pPacket + lDataPointer + 0) n =
        ((data.drop lDataPointer).drop 0).take n := hholds.read_slice (by omega)
    rw [hbehind] at hread
    rw [Nat.add_comm n size, ← hlength]
    rw [List.drop_zero, Nat.add_zero] at hslice
    rw [← hslice, ← hread, hlength]
  · have hkept : memory'.Holds (pPacket + lDataPointer) (data.drop lDataPointer) :=
      hholds.write_before hbehind.le
    have hlater : memory'.Holds (pPacket + lDataPointer + n) ((data.drop lDataPointer).drop n) :=
      hkept.drop (by omega)
    rwa [List.drop_drop, Nat.add_assoc] at hlater
  · exact Memory.SameOutside.write (by omega) (by omega)

/-- The same for a type2 header: what stood in its padding is seen with it. -/
private theorem assigned_type2 (h : ElasticFrameType2) {lDataPointer n : ℕ}
    (hholds : memory.Holds (pPacket + lDataPointer) (data.drop lDataPointer))
    (hfits : lDataPointer + n ≤ data.length) :
    let pType2Frame := pPacket - ElasticFrameType2.size + lDataPointer
    (assignType2 memory pType2Frame h).read pType2Frame (n + ElasticFrameType2.size) =
        h.toBytes (.ofBytes (memory.read pType2Frame ElasticFrameType2.size)) ++
          (data.drop lDataPointer).take n ∧
      Memory.SameOutside (pPacket - ElasticFrameType2.size) (pPacket + data.length)
        memory (assignType2 memory pType2Frame h) := by
  intro pType2Frame
  obtain ⟨hread, -, hsame⟩ := written_header hroom
    (ElasticFrameType2.toBytes_length h
      (.ofBytes (memory.read pType2Frame ElasticFrameType2.size))) le_rfl hholds hfits
  exact ⟨hread, hsame⟩

end Headers

/-! ## §4 The same packets, up to the padding -/

/-- The bytes of a superframe that are sent before the type2 packet. -/
def sentBefore (c : Call) : ℕ :=
  if s.Single c then 0
  else if s.needsType3 c then c.rPacket.length
  else s.pieces c * s.piece

/-- What the padding of the type2 packet shows in place: what stands in the memory that its header
    is written to, in front of the data or in the data that is already sent. -/
def paddingInPlace (memory : Memory) (pPacket : ℕ) (c : Call) : ElasticFrameType2.Padding :=
  .ofBytes (memory.read (pPacket - ElasticFrameType2.size + s.sentBefore c) ElasticFrameType2.size)

/-- The checks of both functions are the same, in the same order. -/
private theorem destructivePackAndSendFromPtr_refused (memory : Memory) (pPacket : ℕ)
    {data : List UInt8} (hrefused : ¬ s.Accepts (v.call data)) :
    ∃ message,
      s.destructivePackAndSendFromPtr v memory pPacket data.length =
        { message, sender := s, packets := [], memory } ∧
      s.packAndSendFromPtr (v.call data) = { message, sender := s, packets := [] } := by
  unfold destructivePackAndSendFromPtr packAndSendFromPtr
  simp only [Values.call]
  rw [if_neg (by decide : ¬ ElasticFrameType1.size ≠ ElasticFrameType3.size)]
  split_ifs with hpts hdts hcode hstream hdiff hlimit hsingle
  · exact ⟨_, rfl, if_pos hpts⟩
  · exact ⟨_, rfl, by simp only [hpts, hdts, ↓reduceIte]⟩
  · exact ⟨_, rfl, by simp only [hpts, hdts, hcode, ↓reduceIte]⟩
  · refine ⟨_, rfl, ?_⟩
    simp only [hpts, hdts, hcode, ↓reduceIte]
    exact if_pos hstream
  · exact ⟨_, rfl, by simp only [hpts, hdts, hcode, hstream, hdiff, ↓reduceIte]⟩
  · exact ⟨_, rfl, by simp only [hpts, hdts, hcode, hstream, hdiff, hlimit, ↓reduceIte]⟩
  -- a call that passes them all is accepted
  · exact absurd ⟨hpts, hdts, hcode, hstream, Nat.not_le.mp hdiff, Nat.not_lt.mp hlimit⟩ hrefused
  · exact absurd ⟨hpts, hdts, hcode, hstream, Nat.not_le.mp hdiff, Nat.not_lt.mp hlimit⟩ hrefused

section Same

variable (hexact : s.Exact) {v}
variable {pPacket : ℕ} (hroom : ElasticFrameType2.size ≤ pPacket) {data : List UInt8}

include hexact hroom

/-- The loop hands out the type1 packets, and the data of the last one and behind it stays. -/
private theorem destructiveType1Loop_eq (lOfFragmentNo : UInt16) (rounds : ℕ)
    (lFragmentNo : UInt16) (lDataPointer : ℕ) (memory : Memory)
    (hholds : memory.Holds (pPacket + lDataPointer) (data.drop lDataPointer))
    (hfits : lDataPointer + rounds * s.piece ≤ data.length) :
    let out := s.destructiveType1Loop v pPacket lOfFragmentNo s.piece rounds lFragmentNo
      lDataPointer memory
    out.1 = s.type1Loop (v.call data) lOfFragmentNo s.piece rounds lFragmentNo lDataPointer ∧
      out.2.Holds (pPacket + (lDataPointer + rounds * s.piece))
        (data.drop (lDataPointer + rounds * s.piece)) ∧
      Memory.SameOutside (pPacket - ElasticFrameType2.size) (pPacket + data.length)
        memory out.2 ∧
      ∀ x, pPacket + (lDataPointer + rounds * s.piece) ≤ x + s.piece → out.2 x = memory x := by
  induction rounds generalizing lFragmentNo lDataPointer memory with
  | zero =>
    rw [Nat.zero_mul, Nat.add_zero]
    exact ⟨rfl, hholds, Memory.SameOutside.refl, fun _ _ => rfl⟩
  | succ rounds ih =>
    have hmtu : 255 ≤ s.mCurrentMTU.toNat := s.mtu_ge
    have hpiece : s.piece = s.mCurrentMTU.toNat - 8 := rfl
    have hwhole : s.mCurrentMTU.toNat = s.piece + ElasticFrameType1.size := by
      show _ = s.piece + 8
      omega
    have hsucc : lDataPointer + (rounds + 1) * s.piece =
        lDataPointer + s.piece + rounds * s.piece := by
      rw [Nat.succ_mul]
      omega
    rw [hsucc] at hfits ⊢
    obtain ⟨hread, hholds', hsame⟩ := written_header hroom
      (ElasticFrameType1.toBytes_length (s.type1Header v lFragmentNo lOfFragmentNo)) (by decide)
      hholds (n := s.piece) (by omega)
    obtain ⟨hlater, hholds'', hsame', hkept⟩ :=
      ih (lFragmentNo + 1) (lDataPointer + s.piece) _ hholds' hfits
    -- what the send function sees is the type1 packet of the copying sender
    have hpacket : s.type1Packet (v.call data) lFragmentNo lOfFragmentNo
          ((data.drop lDataPointer).take s.piece) =
        (s.type1Header v lFragmentNo lOfFragmentNo).toBytes ++
          (data.drop lDataPointer).take s.piece := by
      apply overwrite_full
      rw [List.length_append, ElasticFrameType1.toBytes_length, List.length_take,
        List.length_drop, hexact]
      omega
    refine ⟨?_, hholds'', hsame.trans hsame', fun x hx => ?_⟩
    · show _ :: _ = s.type1Packet (v.call data) lFragmentNo lOfFragmentNo
        ((data.drop lDataPointer).take s.piece) :: _
      rw [hpacket, hlater, hwhole, hread]
    · -- the header is in front of the data of its packet
      have hsize : ElasticFrameType1.size = 8 := rfl
      have hroom : 32 ≤ pPacket := hroom
      refine (hkept x hx).trans (memory.write_of_ge _ _ ?_)
      rw [ElasticFrameType1.toBytes_length]
      omega

/-- A superframe that does not fit the MTU is cut in place as it is when it is copied. -/
private theorem destructiveFragmentAndSend_eq (memory : Memory)
    (hholds : memory.Holds pPacket data) (hsize : data.length ≤ s.limit)
    (hsingle : ¬ s.Single (v.call data)) :
    let out := s.destructiveFragmentAndSend v memory pPacket data.length
    out.message = .noError ∧
      out.sender = { s with mSuperFrameNoGenerator := s.mSuperFrameNoGenerator + 1 } ∧
      out.packets = s.emitted (v.call data) (s.paddingInPlace memory pPacket (v.call data)) ∧
      Memory.SameOutside (pPacket - ElasticFrameType2.size) (pPacket + data.length)
        memory out.memory := by
  have hmtu : 255 ≤ s.mCurrentMTU.toNat := s.mtu_ge
  have hpieceSize : s.piece = s.mCurrentMTU.toNat - 8 := rfl
  obtain ⟨hpiece, hpiece2, hpieces, hlast⟩ := s.calculations (v.call data) hsize
  have hle : s.pieces (v.call data) * s.piece ≤ data.length := Nat.div_mul_le_self _ _
  have hneeds : (decide (s.mCurrentMTU.toNat - ElasticFrameType2.size <
      data.length - s.pieces (v.call data) * s.piece)) = s.needsType3 (v.call data) := rfl
  have hquotient : data.length / (s.mCurrentMTU.toNat - ElasticFrameType1.size) =
      s.pieces (v.call data) := rfl
  have hwhole : s.pieces (v.call data) * s.piece +
      (data.length - s.pieces (v.call data) * s.piece) = data.length := Nat.add_sub_cancel' hle
  -- the type1 packets, and the data behind them
  obtain ⟨hloop, hbehind, hsame, hkept⟩ := s.destructiveType1Loop_eq hexact (v := v) hroom
    (UInt16.ofNat (s.pieces (v.call data) + (s.needsType3 (v.call data)).toNat))
    (s.pieces (v.call data)) 0 0 memory (by simpa using hholds) (by rwa [Nat.zero_add])
  rw [Nat.zero_add] at hbehind hkept
  have hrest : (data.drop (s.pieces (v.call data) * s.piece)).take
      (data.length - s.pieces (v.call data) * s.piece) = s.restOf (v.call data) :=
    List.take_of_length_le (Nat.le_of_eq List.length_drop)
  have hrestOf : s.restOf (v.call data) = data.drop (s.pieces (v.call data) * s.piece) := rfl
  unfold destructiveFragmentAndSend emitted emittedBefore type2Emitted paddingInPlace sentBefore
  simp only [hquotient, hpiece, hpiece2, hpieces, hneeds, ← hlast, hsingle]
  generalize s.destructiveType1Loop v pPacket (UInt16.ofNat (s.pieces (v.call data) +
    (s.needsType3 (v.call data)).toNat)) s.piece (s.pieces (v.call data)) 0 0 memory = type1s
    at hloop hbehind hsame hkept
  generalize hptr : s.pieces (v.call data) * s.piece = ptr at *
  cases hsplit : s.needsType3 (v.call data) with
  | true =>
    -- a type3 packet with the whole rest, and a type2 header over the end of it
    have htype2 : ¬ s.mCurrentMTU.toNat < 0 + ElasticFrameType2.size :=
      Nat.not_lt.mpr (Nat.le_trans (by decide) hmtu)
    simp only [if_true, hwhole, ne_eq, not_true_eq_false, and_false, if_false, Nat.sub_self,
      or_false, htype2, true_and]
    rw [hsplit] at hloop hneeds
    obtain ⟨hread3, hbehind3, hsame3⟩ := written_header hroom
      (ElasticFrameType3.toBytes_length (s.type3Header v _)) (by decide) hbehind
      (n := data.length - ptr) hwhole.le
    rw [hwhole] at hbehind3
    obtain ⟨hread2, hsame2⟩ := assigned_type2 hroom (s.type2Header v _ _ 0) hbehind3 (n := 0)
      le_rfl
    refine ⟨?_, (hsame.trans hsame3).trans hsame2⟩
    -- the end of the rest is behind what the headers before were written to
    have hlong : s.mCurrentMTU.toNat - 32 < data.length - ptr := of_decide_eq_true hneeds
    have hpadding : (type1s.2.write (pPacket - ElasticFrameType3.size + ptr)
        (s.type3Header v (UInt16.ofNat (s.pieces (v.call data) + true.toNat))).toBytes).read
          (pPacket - ElasticFrameType2.size + data.length) ElasticFrameType2.size =
        memory.read (pPacket - ElasticFrameType2.size + data.length) ElasticFrameType2.size := by
      have hsize3 : ElasticFrameType3.size = 8 := rfl
      have hsize2 : ElasticFrameType2.size = 32 := rfl
      refine Memory.read_congr fun x hlo _ => ?_
      refine (Memory.write_of_ge _ _ _ ?_).trans (hkept x (by omega))
      rw [ElasticFrameType3.toBytes_length]
      omega
    rw [hloop, hread3, hread2, hpadding, hrest]
    rfl
  | false =>
    -- a type2 packet with the rest
    have hfit : data.length - ptr ≤ s.mCurrentMTU.toNat - 32 := by
      rw [hsplit] at hneeds
      exact Nat.not_lt.mp (of_decide_eq_false hneeds)
    have htype2 : ¬ s.mCurrentMTU.toNat < data.length - ptr + ElasticFrameType2.size := by
      show ¬ s.mCurrentMTU.toNat < data.length - ptr + 32
      omega
    simp only [Bool.false_eq_true, if_false, ne_eq, not_true_eq_false, false_and, or_false, htype2,
      true_and]
    rw [hsplit] at hloop
    obtain ⟨hread2, hsame2⟩ := assigned_type2 hroom (s.type2Header v _ _ (data.length - ptr))
      hbehind (n := data.length - ptr) hwhole.le
    have hlength : data.length - ptr = (s.restOf (v.call data)).length := by
      rw [hrestOf, List.length_drop]
    refine ⟨?_, hsame.trans hsame2⟩
    -- the header is written to the end of the last piece
    have hpadding : type1s.2.read (pPacket - ElasticFrameType2.size + ptr)
        ElasticFrameType2.size =
        memory.read (pPacket - ElasticFrameType2.size + ptr) ElasticFrameType2.size := by
      have hsize2 : ElasticFrameType2.size = 32 := rfl
      exact Memory.read_congr fun x hlo _ => hkept x (by omega)
    rw [hloop, hread2, hpadding, hrest, hlength]
    rfl

/-- A call with data that is in the memory, on a sender with a buffer of the size of its MTU: it is
    refused as it is with a copy, or hands out the fragments of the parcel, with the padding that
    stood in the memory. -/
theorem destructivePackAndSendFromPtr_of_holds (memory : Memory)
    (hholds : memory.Holds pPacket data) :
    let out := s.destructivePackAndSendFromPtr v memory pPacket data.length
    let copied := s.packAndSendFromPtr (v.call data)
    out.message = copied.message ∧
      out.sender = { copied.sender with mSendBufferEnd := s.mSendBufferEnd } ∧
      Memory.SameOutside (pPacket - ElasticFrameType2.size) (pPacket + data.length)
        memory out.memory ∧
      ((¬ s.Accepts (v.call data) ∧ out.packets = [] ∧ copied.packets = []) ∨
        ∃ h : s.Accepts (v.call data),
          out.packets = (s.parcel (v.call data) h.size).packets
            (s.paddingInPlace memory pPacket (v.call data)) ∧
          copied.packets = (s.parcel (v.call data) h.size).packets (s.padding (v.call data))) := by
  by_cases haccepts : s.Accepts (v.call data)
  case pos =>
    have hpts : v.lPts ≠ UINT64_MAX := haccepts.pts
    have hdts : v.lDts ≠ UINT64_MAX := haccepts.dts
    have hcode : v.lCode.toNat ≠ UINT32_MAX := haccepts.code
    have hstream : ¬ (v.lStreamID = 0 ∧ v.lDataContent ≠ ElasticFrameContent.efpsig) :=
      haccepts.stream
    have hdiff : ¬ UINT32_MAX ≤ (v.lPts - v.lDts).toNat := Nat.not_le.mpr haccepts.diff
    have hlimit : ¬ s.limit < data.length := Nat.not_lt.mpr haccepts.size
    have hemitted := s.emitted_eq (v.call data) (Or.inr hexact) haccepts.size
    rw [s.packAndSendFromPtr_accepted _ haccepts]
    unfold destructivePackAndSendFromPtr
    simp only []
    rw [if_neg hpts, if_neg hdts, if_neg hcode, if_neg hstream, if_neg hdiff, if_neg hlimit]
    by_cases hsingle : s.Single (v.call data)
    · have hfits : data.length + ElasticFrameType2.size ≤ s.mCurrentMTU.toNat := hsingle
      rw [if_pos hfits]
      have hstart : memory.Holds (pPacket + 0) (data.drop 0) := hholds
      obtain ⟨hread, hsame⟩ := assigned_type2 hroom
        (s.type2Header v 0 (UInt16.ofNat data.length) data.length) hstart (n := data.length)
        (by omega)
      refine ⟨rfl, rfl, hsame, Or.inr ⟨haccepts, ?_, hemitted _⟩⟩
      rw [List.drop_zero, List.take_length] at hread
      rw [← hemitted, emitted, emittedBefore, type2Emitted, paddingInPlace, sentBefore,
        if_pos hsingle, if_pos hsingle, if_pos hsingle]
      exact congrArg (fun packet => [packet]) hread
    · have hcut : ¬ data.length + ElasticFrameType2.size ≤ s.mCurrentMTU.toNat := hsingle
      rw [if_neg hcut]
      obtain ⟨hmessage, hsender, hpackets, hsame⟩ :=
        s.destructiveFragmentAndSend_eq hexact hroom memory hholds haccepts.size hsingle
      exact ⟨hmessage, hsender, hsame,
        Or.inr ⟨haccepts, hpackets.trans (hemitted _), hemitted _⟩⟩
  case neg =>
    obtain ⟨message, hin, hcopied⟩ :=
      s.destructivePackAndSendFromPtr_refused v memory pPacket haccepts
    rw [hin, hcopied]
    exact ⟨rfl, rfl, Memory.SameOutside.refl, Or.inl ⟨haccepts, rfl, rfl⟩⟩

/-- Whatever is sent in place is, up to the padding, what is sent of a copy. -/
theorem clearPadding_inPlace (memory : Memory) (hholds : memory.Holds pPacket data) :
    (s.destructivePackAndSendFromPtr v memory pPacket data.length).packets.map clearPadding =
      (s.packAndSendFromPtr (v.call data)).packets.map clearPadding := by
  obtain ⟨-, -, -, hpackets⟩ := s.destructivePackAndSendFromPtr_of_holds hexact (v := v) hroom
    memory hholds
  rcases hpackets with ⟨-, hnone, hnone'⟩ | ⟨haccepts, hsent, hsent'⟩
  · rw [hnone, hnone']
  · rw [hsent, hsent', Parcel.clearPadding_packets, Parcel.clearPadding_packets]

end Same

/-- **The same packets without a copy**: for every MTU from 255 on, whatever the last packet left in
    the buffer, and every superframe with room for a type2 header in front of it, the call gives the
    same result and the same next number as on a copy of the data, no byte changes outside the data
    and the 32 bytes in front of it, and up to the padding the send function sees the same packets.
    It sees them byte for byte when the call is refused, or when the padding of the type2 header
    shows the same in both places. -/
theorem destructivePackAndSendFromPtr_iff (lSetMTU lSuperFrameNo : UInt16)
    (mSendBufferEnd : List UInt8) (hmtu : UINT8_MAX ≤ lSetMTU.toNat) (v : Values) (memory : Memory)
    (pPacket lPacketSize : ℕ) (hroom : ElasticFrameType2.size ≤ pPacket) :
    let sender := used lSetMTU lSuperFrameNo mSendBufferEnd
    let call := v.call (memory.read pPacket lPacketSize)
    let out := sender.destructivePackAndSendFromPtr v memory pPacket lPacketSize
    let copied := sender.packAndSendFromPtr call
    out.message = copied.message ∧
      out.sender.mSuperFrameNoGenerator = copied.sender.mSuperFrameNoGenerator ∧
      Memory.SameOutside (pPacket - ElasticFrameType2.size) (pPacket + lPacketSize)
        memory out.memory ∧
      out.packets.map clearPadding = copied.packets.map clearPadding ∧
      (out.packets = copied.packets ↔
        ¬ sender.Accepts call ∨
          sender.paddingInPlace memory pPacket call = sender.padding call) := by
  intro sender call out copied
  have hlength := memory.read_length pPacket lPacketSize
  have hholds : memory.Holds pPacket (memory.read pPacket lPacketSize) := by
    rw [Memory.Holds, hlength]
  have hexact : sender.Exact := used_exact hmtu lSuperFrameNo mSendBufferEnd
  have hspec := sender.destructivePackAndSendFromPtr_of_holds hexact (v := v) hroom memory hholds
  have hclear := sender.clearPadding_inPlace hexact (v := v) hroom memory hholds
  rw [hlength] at hspec hclear
  obtain ⟨hmessage, hsender, hsame, hpackets⟩ := hspec
  have hnumber := congrArg mSuperFrameNoGenerator hsender
  refine ⟨hmessage, hnumber, hsame, hclear, ?_⟩
  rcases hpackets with ⟨hrefused, hnone, hnone'⟩ | ⟨haccepts, hsent, hsent'⟩
  · exact iff_of_true (hnone.trans hnone'.symm) (Or.inl hrefused)
  · show out.packets = copied.packets ↔ _
    rw [or_iff_right (not_not.mpr haccepts)]
    exact (Eq.congr hsent hsent').trans (Parcel.packets_inj _)

/-- One byte behind zeros is sent alike in place, and so are, up to the padding, 490 bytes behind
    anything, which are cut into type1, type3 and an empty type2 packet. -/
theorem destructivePackAndSendFromPtr_iff_zeros :
    let v : Values :=
      { lDataContent := 0x20, lPts := 1, lDts := 1, lCode := 0, lStreamID := 1, lFlags := 0 }
    let zeros : Memory := fun _ => 0
    let counting : Memory := fun x => UInt8.ofNat x
    let sender := used 255 65535 []
    (sender.destructivePackAndSendFromPtr v zeros 32 1).packets =
        (sender.packAndSendFromPtr (v.call (zeros.read 32 1))).packets ∧
      (sender.destructivePackAndSendFromPtr v counting 32 490).packets.map clearPadding =
        (sender.packAndSendFromPtr (v.call (counting.read 32 490))).packets.map clearPadding := by
  intro v zeros counting sender
  have hzeros := destructivePackAndSendFromPtr_iff 255 65535 [] (by decide) v zeros 32 1 (by decide)
  have hcounting := destructivePackAndSendFromPtr_iff 255 65535 [] (by decide) v counting 32 490
    (by decide)
  exact ⟨hzeros.2.2.2.2.mpr (Or.inr (by decide +kernel)), hcounting.2.2.2.1⟩

/-- One byte behind bytes that are all set: the padding of the packet shows them, and that of the
    packet with the copy is zero. -/
theorem not_same_packets :
    let v : Values :=
      { lDataContent := 0x20, lPts := 1, lDts := 1, lCode := 0, lStreamID := 1, lFlags := 0 }
    let memory : Memory := fun _ => 255
    let sender := (new 255).setSuperFrameNo 0
    let out := sender.destructivePackAndSendFromPtr v memory 32 1
    let copied := sender.packAndSendFromPtr (v.call (memory.read 32 1))
    out.message = .noError ∧ copied.message = .noError ∧ out.packets ≠ copied.packets := by
  decide +kernel

end Sender

end ElasticFrame
