import ElasticFrame.Receiver.State

/-!
# Unpacking Fragments

`unpackType1`, `unpackType2` and `unpackType3`: a fragment finds its bucket by the low bits of
its superframe number and either opens it or adds to it.

## One body for three functions

The three functions of the source are the same code over different header fields. Here a
fragment is its header and its data (`Fragment`), what the functions take from it is one small
definition each, by cases on the kind, and `unpackFragment` is the common body. Each function
keeps its name and its own length check.

| taken from the header     | type1            | type2                | type3                  |
|---------------------------|------------------|----------------------|------------------------|
| position in the superframe| `hFragmentNo`    | `hOfFragmentNo`      | `hOfFragmentNo - 1`    |
| size of a type1 payload   | its own          | `hType1PacketSize`   | `hType1PacketSize`     |
| PTS, DTS, code, content   | not known        | its own              | not known              |
| range check when opening  | yes              | no                   | no                     |
| frame size when filling   | kept             | set if it has data   | set                    |

## What a call touches

Every function also reports what it reads and writes (`Access`), so that bounds can be stated.
The sizes are `size_t` and wrap; an insert position is computed modulo `2 ^ 64`.
-/

namespace ElasticFrame

open ElasticFrame.Lib

/-! ## §1 Fragments -/

/-- A fragment: one of the three headers, and the data that the unpack function copies. -/
inductive Fragment where
  | type1 (h : ElasticFrameType1) (data : List UInt8)
  | type2 (h : ElasticFrameType2) (data : List UInt8)
  | type3 (h : ElasticFrameType3) (data : List UInt8)
  deriving DecidableEq, Repr

namespace Fragment

def hSuperFrameNo : Fragment → UInt16
  | type1 h _ => h.hSuperFrameNo
  | type2 h _ => h.hSuperFrameNo
  | type3 h _ => h.hSuperFrameNo

/-- The bucket that the fragment belongs to. -/
def slot (f : Fragment) : Slot := slotOf f.hSuperFrameNo

/-- `hFrameType & 0xf0`. -/
def mFlags : Fragment → UInt8
  | type1 h _ => h.hFrameType &&& 0xf0
  | type2 h _ => h.hFrameType &&& 0xf0
  | type3 h _ => h.hFrameType &&& 0xf0

def stream : Fragment → UInt8
  | type1 h _ => h.hStream
  | type2 h _ => h.hStreamID
  | type3 h _ => h.hStreamID

def hOfFragmentNo : Fragment → UInt16
  | type1 h _ => h.hOfFragmentNo
  | type2 h _ => h.hOfFragmentNo
  | type3 h _ => h.hOfFragmentNo

/-- The position in the superframe. A type3 fragment is the second last one; the subtraction is
    a `uint16_t`. -/
def fragmentNo : Fragment → UInt16
  | type1 h _ => h.hFragmentNo
  | type2 h _ => h.hOfFragmentNo
  | type3 h _ => h.hOfFragmentNo - 1

def data : Fragment → List UInt8
  | type1 _ d => d
  | type2 _ d => d
  | type3 _ d => d

/-- The bytes that the unpack function copies from the packet: all behind the header, or as many as
    a type2 header announces. -/
def copySize : Fragment → ℕ
  | type1 _ d => d.length
  | type2 h _ => h.hSizeOfData.toNat
  | type3 _ d => d.length

/-- The size of a type1 payload, as the fragment knows it. -/
def fragmentSize : Fragment → ℕ
  | type1 _ d => d.length
  | type2 h _ => h.hType1PacketSize.toNat
  | type3 h _ => h.hType1PacketSize.toNat

/-- The bytes that are allocated when this fragment opens a bucket. In a type3 header
    `hOfFragmentNo - 1` is an `int`, converted to `size_t`. -/
def reserve : Fragment → ℕ
  | type1 h d => sizeT (d.length * (h.hOfFragmentNo.toNat + 1))
  | type2 h _ => sizeT (h.hType1PacketSize.toNat * h.hOfFragmentNo.toNat + h.hSizeOfData.toNat)
  | type3 h d =>
      sizeT (h.hType1PacketSize.toNat * sizeT (h.hOfFragmentNo.toNat + (2 ^ 64 - 1)) + d.length)

/-- The PTS that a bucket gets: known from type2 fragments only. -/
def mPts : Fragment → UInt64
  | type2 h _ => h.hPts
  | _ => UINT64_MAX

/-- The DTS that a bucket gets, from the difference to the PTS. -/
def mDts : Fragment → UInt64
  | type2 h _ =>
      if h.hDtsPtsDiff.toNat = UINT32_MAX then UINT64_MAX else h.hPts - h.hDtsPtsDiff.toUInt64
  | _ => UINT64_MAX

/-- The stream table after the fragment: a type2 fragment writes the entry of its stream. -/
def noteStream (f : Fragment) (streams : UInt8 → Stream) : UInt8 → Stream :=
  match f with
  | type2 h _ =>
      Function.update streams h.hStreamID { mCode := h.hCode, mDataContent := h.hDataContent }
  | _ => streams

/-- `pThisBucket->mOfFragmentNo < hFragmentNo`, tested by `unpackType1` after it opened the
    bucket. -/
def misplaced : Fragment → Bool
  | type1 h _ => h.hOfFragmentNo < h.hFragmentNo
  | _ => false

/-- The superframe that the bucket gets when this fragment opens it. `unpackType1` sets the frame
    size as if the last fragment were empty. -/
def newBucketData (f : Fragment) (allocates : Bool) : SuperFrame :=
  let fresh := SuperFrame.new allocates f.reserve
  match f with
  | type1 h d => { fresh with mFrameSize := sizeT (d.length * h.hOfFragmentNo.toNat) }
  | _ => fresh

/-- `mFrameSize` after the fragment was added to a bucket of fragment size `mFragmentSize`. -/
def fillFrameSize (f : Fragment) (mFragmentSize mFrameSize : ℕ) : ℕ :=
  match f with
  | type1 _ _ => mFrameSize
  | type2 h _ =>
      if h.hSizeOfData = 0 then mFrameSize
      else sizeT (mFragmentSize * h.hOfFragmentNo.toNat + h.hSizeOfData.toNat)
  | type3 h d => sizeT (mFragmentSize * sizeT (h.hOfFragmentNo.toNat + (2 ^ 64 - 1)) + d.length)

/-- Where the data goes in a bucket of fragment size `mFragmentSize`. A type2 fragment uses the
    size in its own header. -/
def insertPointer (f : Fragment) (mFragmentSize : ℕ) : ℕ :=
  match f with
  | type2 h _ => sizeT (h.hType1PacketSize.toNat * h.hOfFragmentNo.toNat)
  | _ => sizeT (mFragmentSize * f.fragmentNo.toNat)

end Fragment

/-! ## §2 Accesses -/

/-- An access whose index or range the code does not check by itself. -/
inductive Access where
  /-- Bytes `[off, off + len)` of a packet of `size` bytes are read. -/
  | packet (off len size : ℕ)
  /-- `mStreams[index]`. -/
  | stream (index : UInt8)
  /-- `mHaveReceivedFragment[index]`. -/
  | received (index : UInt16)
  /-- `len` bytes are copied to offset `pos` of a block of `allocated` bytes. -/
  | copy (pos len allocated : ℕ)
  deriving DecidableEq, Repr

/-- The access stays inside what it accesses. -/
def Access.InBounds : Access → Prop
  | packet off len size => off + len ≤ size
  | stream index => index.toNat < UINT8_MAX
  | received index => index.toNat < UINT16_MAX
  | copy pos len allocated => Block.InBounds pos len allocated

instance : DecidablePred Access.InBounds := fun a => by
  cases a <;> unfold Access.InBounds <;> infer_instance

/-- What one call of an unpack function gives back. -/
structure Unpacked where
  message : ElasticFrameMessages
  receiver : Receiver
  accesses : List Access

/-! ## §3 Buckets opened and filled -/

/-- The allocated size of a bucket's superframe. -/
def Bucket.allocated (b : Bucket) : ℕ :=
  match b.mBucketData with
  | some d => (d.pFrameData.map Block.size).getD 0
  | none => 0

/-- `std::copy_n` into the superframe of a bucket. -/
def Bucket.copy (b : Bucket) (pos : ℕ) (bytes : List UInt8) : Bucket :=
  { b with
    mBucketData := b.mBucketData.map fun d =>
      { d with pFrameData := d.pFrameData.map fun block => block.copy pos bytes } }

/-- The bucket after the assignments of the opening branch, before any data is copied. -/
def Receiver.openedBucket (r : Receiver) (f : Fragment) (lFromSource : UInt8) (amb : Ambient) :
    Bucket :=
  let thisStream := f.noteStream r.mStreams f.stream
  { mDeliveryOrder := r.candidate f.hSuperFrameNo
    mActive := true
    mSource := lFromSource
    mFlags := f.mFlags
    mStream := f.stream
    mDataContent := thisStream.mDataContent
    mCode := thisStream.mCode
    mSavedSuperFrameNo := f.hSuperFrameNo
    mPts := f.mPts
    mDts := f.mDts
    mHaveReceivedFragment := {f.fragmentNo}
    mTimeout := amb.clockOpen + r.bucketTimeout
    mFragmentCounter := 0
    mOfFragmentNo := f.hOfFragmentNo
    mFragmentSize := f.fragmentSize
    mBucketData := some (f.newBucketData amb.allocates) }

/-- The opening branch: the slot of the fragment is not in use. -/
def Receiver.openBucket (r : Receiver) (f : Fragment) (lFromSource : UInt8) (amb : Ambient) :
    Unpacked :=
  let r' := r.renumbered f.hSuperFrameNo
  -- is this an old fragment where the superframe is already delivered?
  if r.candidate f.hSuperFrameNo = (r.mBucketList f.slot).mDeliveryOrder then
    { message := .tooOldFragment, receiver := r', accesses := [] }
  else
    let bucket := r.openedBucket f lFromSource amb
    let r' : Receiver :=
      { r' with
        mStreams := f.noteStream r.mStreams
        mBucketMap := r.mBucketMap.insert bucket.mDeliveryOrder f.slot }
    let touched := [Access.stream f.stream, Access.received f.fragmentNo]
    if amb.allocates = false then
      { message := .memoryAllocationError
        receiver := r'.dropBucket f.slot bucket
        accesses := touched }
    else if f.misplaced then
      { message := .bufferOutOfBounds
        receiver := r'.dropBucket f.slot bucket
        accesses := touched }
    else
      let pos := sizeT (f.fragmentSize * f.fragmentNo.toNat)
      { message := .noError
        receiver := r'.setBucket f.slot (bucket.copy pos f.data)
        accesses := touched ++ [Access.copy pos f.data.length bucket.allocated] }

/-- The bucket after a fragment was added to it. Type2 fragments bring the PTS, the DTS, the code
    and the content type. -/
def Receiver.filledBucket (r : Receiver) (f : Fragment) : Bucket :=
  let b := r.mBucketList f.slot
  let b : Bucket :=
    { b with
      mHaveReceivedFragment := insert f.fragmentNo b.mHaveReceivedFragment
      mFragmentCounter := b.mFragmentCounter + 1
      mBucketData := b.mBucketData.map fun d =>
        { d with mFrameSize := f.fillFrameSize b.mFragmentSize d.mFrameSize } }
  let b : Bucket :=
    match f with
    | .type2 h _ =>
        { b with
          mPts := f.mPts
          mDts := f.mDts
          mCode := h.hCode
          mDataContent := h.hDataContent
          mFlags := f.mFlags
          mStream := f.stream }
    | _ => b
  b.copy (f.insertPointer b.mFragmentSize) f.data

/-- The accesses of a fragment that is added to a bucket. A type2 fragment writes the stream
    table, and copies only when it has data. -/
def Receiver.fillAccesses (r : Receiver) (f : Fragment) : List Access :=
  let b := r.mBucketList f.slot
  let copied := Access.copy (f.insertPointer b.mFragmentSize) f.data.length b.allocated
  match f with
  | .type2 h _ => Access.stream f.stream :: (if h.hSizeOfData = 0 then [] else [copied])
  | _ => [copied]

/-- The filling branch: the slot of the fragment holds a superframe. -/
def Receiver.fillBucket (r : Receiver) (f : Fragment) : Unpacked :=
  let b := r.mBucketList f.slot
  if f.hSuperFrameNo ≠ b.mSavedSuperFrameNo then
    { message := .bufferOutOfResources, receiver := r, accesses := [] }
  else if b.mOfFragmentNo < f.fragmentNo ∨ f.hOfFragmentNo ≠ b.mOfFragmentNo then
    { message := .bufferOutOfBounds, receiver := r.dropBucket f.slot b, accesses := [] }
  else if f.fragmentNo ∈ b.mHaveReceivedFragment then
    { message := .duplicatePacketReceived
      receiver := r
      accesses := [Access.received f.fragmentNo] }
  else
    { message := .noError
      receiver :=
        { r.setBucket f.slot (r.filledBucket f) with mStreams := f.noteStream r.mStreams }
      accesses := Access.received f.fragmentNo :: r.fillAccesses f }

/-- The common body of the three unpack functions. -/
def Receiver.unpackFragment (r : Receiver) (f : Fragment) (lFromSource : UInt8) (amb : Ambient) :
    Unpacked :=
  if (r.mBucketList f.slot).mActive = false then r.openBucket f lFromSource amb
  else r.fillBucket f

/-! ## §4 The three functions -/

/-- The fragment that `unpackType1` sees in a packet. -/
def fragmentType1 (p : List UInt8) : Fragment :=
  .type1 (ElasticFrameType1.ofBytes p) (p.drop ElasticFrameType1.size)

/-- The fragment that `unpackType2` sees in a packet: `hSizeOfData` bytes of data. It is the data of
    a packet that has them; what `unpackType2` reads of any other is in `packetReads`. -/
def fragmentType2 (p : List UInt8) : Fragment :=
  let h := ElasticFrameType2.ofBytes p
  .type2 h ((p.drop ElasticFrameType2.size).take h.hSizeOfData.toNat)

/-- The fragment that `unpackType3` sees in a packet. -/
def fragmentType3 (p : List UInt8) : Fragment :=
  .type3 (ElasticFrameType3.ofBytes p) (p.drop ElasticFrameType3.size)

/-- The reads of a packet: its header, and the bytes behind it that are copied. -/
def packetReads (p : List UInt8) (header : ℕ) (f : Fragment) : List Access :=
  [Access.packet 0 header p.length, Access.packet header f.copySize p.length]

def Unpacked.reading (u : Unpacked) (reads : List Access) : Unpacked :=
  { u with accesses := reads ++ u.accesses }

def Receiver.unpackType1 (r : Receiver) (pSubPacket : List UInt8) (lFromSource : UInt8)
    (amb : Ambient) : Unpacked :=
  let f := fragmentType1 pSubPacket
  (r.unpackFragment f lFromSource amb).reading (packetReads pSubPacket ElasticFrameType1.size f)

def Receiver.unpackType2 (r : Receiver) (pSubPacket : List UInt8) (lFromSource : UInt8)
    (amb : Ambient) : Unpacked :=
  let h := ElasticFrameType2.ofBytes pSubPacket
  if pSubPacket.length < ElasticFrameType2.size + h.hSizeOfData.toNat then
    { message := .type2FrameOutOfBounds
      receiver := r
      accesses := [Access.packet 0 ElasticFrameType2.size pSubPacket.length] }
  else
    let f := fragmentType2 pSubPacket
    (r.unpackFragment f lFromSource amb).reading (packetReads pSubPacket ElasticFrameType2.size f)

def Receiver.unpackType3 (r : Receiver) (pSubPacket : List UInt8) (lFromSource : UInt8)
    (amb : Ambient) : Unpacked :=
  let f := fragmentType3 pSubPacket
  (r.unpackFragment f lFromSource amb).reading (packetReads pSubPacket ElasticFrameType3.size f)

end ElasticFrame
