import ElasticFrame.Wire

/-!
# The Sender

`ElasticFrameProtocolSender`: its constructor, `setSuperFrameNo` and `packAndSendFromPtr`, which
cuts a superframe into fragments and gives each to the send callback.

- A superframe that fits the MTU is one type2 packet.
- Otherwise it is as many type1 packets as can be filled, and a type2 packet with the rest.
- When the rest is too large for a type2 packet, it goes into a type3 packet and the type2 packet
  is empty.

Type3 and type2 packets are made in one buffer, which stays from call to call. The fields of a type2
header are assigned one by one, so its padding is what the packet before left there.

`floor(double / double)` is the quotient of natural numbers: the operands are below `2 ^ 33`, and a
quotient below an integer by at least `2 ^ -16` does not round up to it in a `double`.
-/

namespace ElasticFrame

/-! ## §1 The sender -/

/-- The state of `ElasticFrameProtocolSender`. The constructor keeps the MTU from falling below
    `UINT8_MAX`, but gives the buffer for type1 packets the size it was asked for. The buffer for
    the other packets is empty at first. -/
structure Sender where
  mCurrentMTU : UInt16
  mSuperFrameNoGenerator : UInt16 := 0
  mSendBufferFixed : List UInt8
  mSendBufferEnd : List UInt8 := []
  mtu_ge : UINT8_MAX ≤ mCurrentMTU.toNat

/-- The constructor. -/
def Sender.new (lSetMTU : UInt16) : Sender :=
  if h : lSetMTU.toNat < UINT8_MAX then
    { mCurrentMTU := 255
      mSendBufferFixed := List.replicate lSetMTU.toNat 0
      mtu_ge := Nat.le_refl _ }
  else
    { mCurrentMTU := lSetMTU
      mSendBufferFixed := List.replicate lSetMTU.toNat 0
      mtu_ge := Nat.not_lt.mp h }

/-- `setSuperFrameNo`. -/
def Sender.setSuperFrameNo (s : Sender) (lSuperFrameNo : UInt16) : Sender :=
  { s with mSuperFrameNoGenerator := lSuperFrameNo }

/-- The arguments of `packAndSend`. -/
structure Call where
  rPacket : List UInt8
  lDataContent : UInt8
  lPts : UInt64
  lDts : UInt64
  lCode : UInt32
  lStreamID : UInt8
  lFlags : UInt8
  deriving DecidableEq, Repr

/-- What a call gives back: its result, the sender after it, and the packets that went to the send
    callback, in order. -/
structure Packed where
  message : ElasticFrameMessages
  sender : Sender
  packets : List (List UInt8)

/-! ## §2 `packAndSendFromPtr` -/

/-- Bytes written over the start of a buffer of fixed size. -/
def overwrite (buffer bytes : List UInt8) : List UInt8 :=
  (bytes ++ buffer.drop bytes.length).take buffer.length

/-- `resize` of a vector: bytes are cut off, or zeros appended. -/
def resize (buffer : List UInt8) (n : ℕ) : List UInt8 :=
  buffer.take n ++ List.replicate (n - buffer.length) 0

/-- The largest superframe: 65534 type1 packets and a type2 packet. -/
def Sender.limit (s : Sender) : ℕ :=
  (s.mCurrentMTU.toNat - ElasticFrameType1.size) * (UINT16_MAX - 1) +
    (s.mCurrentMTU.toNat - ElasticFrameType2.size)

/-- The header of a type2 packet of a call. -/
def Sender.type2HeaderOf (s : Sender) (c : Call) (lOfFragmentNo hType1PacketSize : UInt16)
    (lDataSize : ℕ) : ElasticFrameType2 where
  hFrameType := Frametype.type2.value ||| c.lFlags &&& 0xf0
  hStreamID := c.lStreamID
  hDataContent := c.lDataContent
  hSizeOfData := UInt16.ofNat lDataSize
  hSuperFrameNo := s.mSuperFrameNoGenerator
  hOfFragmentNo := lOfFragmentNo
  hType1PacketSize
  hPts := c.lPts
  hDtsPtsDiff := (c.lPts - c.lDts).toUInt32
  hCode := c.lCode

/-- The type2 packet of a call, in `mSendBufferEnd`: what stands in the padding of the header stays
    there. -/
def Sender.type2Packet (s : Sender) (c : Call) (lOfFragmentNo hType1PacketSize : UInt16)
    (data : List UInt8) : List UInt8 :=
  let mSendBufferEnd := resize s.mSendBufferEnd (ElasticFrameType2.size + data.length)
  let h := s.type2HeaderOf c lOfFragmentNo hType1PacketSize data.length
  h.toBytes (ElasticFrameType2.Padding.ofBytes mSendBufferEnd) ++ data

/-- The type1 packet with this number, in the buffer for type1 packets. A packet covers the whole
    buffer, so what earlier ones left there is not kept. -/
def Sender.type1Packet (s : Sender) (c : Call) (lFragmentNo lOfFragmentNo : UInt16)
    (data : List UInt8) : List UInt8 :=
  let h : ElasticFrameType1 :=
    { hFrameType := Frametype.type1.value ||| c.lFlags &&& 0xf0
      hStream := c.lStreamID
      hSuperFrameNo := s.mSuperFrameNoGenerator
      hFragmentNo := lFragmentNo
      hOfFragmentNo := lOfFragmentNo }
  overwrite s.mSendBufferFixed (h.toBytes ++ data)

/-- The type3 packet of a call. It covers all of `mSendBufferEnd`. -/
def Sender.type3Packet (s : Sender) (c : Call) (lOfFragmentNo : UInt16) (data : List UInt8) :
    List UInt8 :=
  let h : ElasticFrameType3 :=
    { hFrameType := Frametype.type3.value ||| c.lFlags &&& 0xf0
      hStreamID := c.lStreamID
      hSuperFrameNo := s.mSuperFrameNoGenerator
      hType1PacketSize := UInt16.ofNat (s.mCurrentMTU.toNat - ElasticFrameType1.size)
      hOfFragmentNo := lOfFragmentNo }
  h.toBytes ++ data

/-- The loop over the type1 packets, with the number of rounds that are left. -/
def Sender.type1Loop (s : Sender) (c : Call) (lOfFragmentNo : UInt16) (lDataPayloadType1 : ℕ) :
    ℕ → UInt16 → ℕ → List (List UInt8)
  | 0, _, _ => []
  | rounds + 1, lFragmentNo, lDataPointer =>
      s.type1Packet c lFragmentNo lOfFragmentNo
          ((c.rPacket.drop lDataPointer).take lDataPayloadType1) ::
        s.type1Loop c lOfFragmentNo lDataPayloadType1 rounds (lFragmentNo + 1)
          (lDataPointer + lDataPayloadType1)

/-- The part of `packAndSendFromPtr` behind its checks, for a superframe that does not fit the
    MTU. -/
def Sender.fragmentAndSend (s : Sender) (c : Call) : Packed :=
  let mtu := s.mCurrentMTU.toNat
  let lPacketSize := c.rPacket.length
  let lDataPayloadType1 := (UInt16.ofNat (mtu - ElasticFrameType1.size)).toNat
  let lDataPayloadType2 := (UInt16.ofNat (mtu - ElasticFrameType2.size)).toNat
  let lOfFragmentNoType1 := UInt16.ofNat (lPacketSize / (mtu - ElasticFrameType1.size))
  let lReminderData := lPacketSize - lOfFragmentNoType1.toNat * lDataPayloadType1
  -- the reminder may be too large for a type2 packet
  let lType3needed : Bool := lDataPayloadType2 < lReminderData
  let lOfFragmentNo := if lType3needed then lOfFragmentNoType1 + 1 else lOfFragmentNoType1
  let type1Packets :=
    s.type1Loop c lOfFragmentNo lDataPayloadType1 lOfFragmentNoType1.toNat 0 0
  let lDataPointer := lOfFragmentNoType1.toNat * lDataPayloadType1
  let lFragmentNo := if lType3needed then lOfFragmentNoType1 + 1 else lOfFragmentNoType1
  let type3Packet :=
    s.type3Packet c lOfFragmentNo ((c.rPacket.drop lDataPointer).take lReminderData)
  let type3Packets := if lType3needed then [type3Packet] else []
  let s' : Sender :=
    { s with mSendBufferEnd := if lType3needed then type3Packet else s.mSendBufferEnd }
  let lDataPointer' := if lType3needed then lDataPointer + lReminderData else lDataPointer
  let lDataLeftToSend := lPacketSize - lDataPointer'
  if lType3needed ∧ lDataPointer' ≠ lPacketSize then
    { message := .internalCalculationError, sender := s', packets := type1Packets }
  else if (lType3needed ∧ lDataLeftToSend ≠ 0) ∨ mtu < lDataLeftToSend + ElasticFrameType2.size ∨
      lOfFragmentNo ≠ lFragmentNo then
    { message := .internalCalculationError, sender := s', packets := type1Packets ++ type3Packets }
  else
    let type2Packet := s'.type2Packet c lOfFragmentNo (UInt16.ofNat (mtu - ElasticFrameType1.size))
      ((c.rPacket.drop lDataPointer').take lDataLeftToSend)
    { message := .noError
      sender :=
        { s with
          mSuperFrameNoGenerator := s.mSuperFrameNoGenerator + 1
          mSendBufferEnd := type2Packet }
      packets := type1Packets ++ type3Packets ++ [type2Packet] }

/-- `packAndSendFromPtr`. -/
def Sender.packAndSendFromPtr (s : Sender) (c : Call) : Packed :=
  let refuse (message : ElasticFrameMessages) : Packed := { message, sender := s, packets := [] }
  if ElasticFrameType1.size ≠ ElasticFrameType3.size then refuse .type1And3SizeError
  else if c.lPts = UINT64_MAX then refuse .reservedPTSValue
  else if c.lDts = UINT64_MAX then refuse .reservedDTSValue
  else if c.lCode.toNat = UINT32_MAX then refuse .reservedCodeValue
  else if c.lStreamID = 0 ∧ c.lDataContent ≠ ElasticFrameContent.efpsig then
    refuse .reservedStreamValue
  else if UINT32_MAX ≤ (c.lPts - c.lDts).toNat then refuse .dtsptsDiffToLarge
  else if s.limit < c.rPacket.length then refuse .tooLargeFrame
  else if c.rPacket.length + ElasticFrameType2.size ≤ s.mCurrentMTU.toNat then
    let type2Packet := s.type2Packet c 0 (UInt16.ofNat c.rPacket.length) c.rPacket
    { message := .noError
      sender :=
        { s with
          mSuperFrameNoGenerator := s.mSuperFrameNoGenerator + 1
          mSendBufferEnd := type2Packet }
      packets := [type2Packet] }
  else s.fragmentAndSend c

end ElasticFrame
