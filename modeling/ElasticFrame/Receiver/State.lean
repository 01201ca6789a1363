import ElasticFrame.Wire
import ElasticFrame.Lib.Cells
import ElasticFrame.Lib.Serial
import Mathlib.Data.Finset.Card
import Mathlib.Data.Fintype.Card

/-!
# Receiver State

The data of `ElasticFrameProtocolReceiver`: superframes, buckets, the ring of buckets with the
sorted map over it, and the counters of the renumbering and of the delivery.

## Layout of the model

- A pointer into `mBucketList` is a `Slot`, the index of the bucket. The ring has
  `CIRCULAR_BUFFER_SIZE + 1` entries and is indexed through the mask, so a slot is in range by
  its type.
- `std::map` is an extensional sorted map: equal contents are equal maps.
- `mHaveReceivedFragment` is the set of its true bits. Position 65535 lies one past the end of
  the `std::bitset<UINT16_MAX>`; the model gives it a bit of its own.
- `mStreams` is a function of the stream byte. Entry 255 lies one past the end of the array; the
  model gives it a cell of its own.
- `std::chrono::steady_clock` and the allocator are answers from outside (`Ambient`).
-/

namespace ElasticFrame

open ElasticFrame.Lib

/-! ## §1 Superframes and buckets -/

/-- The index of a bucket in `mBucketList`. -/
abbrev Slot := Fin (CIRCULAR_BUFFER_SIZE + 1)

/-- The bucket of a superframe number: `hSuperFrameNo & CIRCULAR_BUFFER_SIZE`. -/
def slotOf (lSuperFrame : UInt16) : Slot :=
  ⟨lSuperFrame.toNat &&& CIRCULAR_BUFFER_SIZE, Nat.lt_succ_of_le Nat.and_le_right⟩

/-- `class SuperFrame`: the data of a superframe and what is known about it. -/
structure SuperFrame where
  mFrameSize : ℕ := 0
  pFrameData : Option Block := none
  mDataContent : UInt8 := ElasticFrameContent.unknown
  mBroken : Bool := true
  mPts : UInt64 := UINT64_MAX
  mDts : UInt64 := UINT64_MAX
  mCode : UInt32 := 4294967295
  mStreamID : UInt8 := 0
  mSource : UInt8 := 0
  mFlags : UInt8 := 0
  mSuperFrameNo : UInt16 := 0

/-- The constructor `SuperFrame(lMemAllocSize)`: the size is kept only when the allocator gave
    the block. -/
def SuperFrame.new (allocates : Bool) (lMemAllocSize : ℕ) : SuperFrame :=
  if allocates then { mFrameSize := lMemAllocSize, pFrameData := some (Block.alloc lMemAllocSize) }
  else {}

/-- `class Bucket`: a superframe under assembly. -/
structure Bucket where
  mActive : Bool := false
  mDataContent : UInt8 := ElasticFrameContent.unknown
  mSavedSuperFrameNo : UInt16 := 0
  mTimeout : ℤ := 0
  mFragmentCounter : UInt16 := 0
  mOfFragmentNo : UInt16 := 0
  mDeliveryOrder : UInt64 := UINT64_MAX
  mFragmentSize : ℕ := 0
  mPts : UInt64 := UINT64_MAX
  mDts : UInt64 := UINT64_MAX
  mCode : UInt32 := 4294967295
  mStream : UInt8 := 0
  mSource : UInt8 := 0
  mFlags : UInt8 := 0
  mHaveReceivedFragment : Finset UInt16 := ∅
  mBucketData : Option SuperFrame := none

/-- Every fragment of the superframe is in: the test of both delivery engines. -/
def Bucket.complete (b : Bucket) : Bool := b.mFragmentCounter = b.mOfFragmentNo

/-- `struct Stream`: what the last type2 fragment said about a stream. -/
structure Stream where
  mCode : UInt32 := 4294967295
  mDataContent : UInt8 := ElasticFrameContent.unknown
  deriving DecidableEq, Repr

/-! ## §2 The receiver -/

/-- Who runs the delivery: a worker thread, or the call that brings a fragment. -/
inductive EFPReceiverMode where
  | THREADED
  | RUN_TO_COMPLETION
  deriving DecidableEq, Repr

/-- The sorted map from delivery orders to buckets. -/
abbrev BucketMap := Std.ExtTreeMap UInt64 Slot

/-- The state of `ElasticFrameProtocolReceiver`. -/
structure Receiver where
  mStreams : UInt8 → Stream := fun _ => {}
  mBucketMap : BucketMap := ∅
  mBucketList : Slot → Bucket := fun _ => {}
  mBucketTimeoutms : UInt32
  mHeadOfLineBlockingTimeoutms : UInt32
  mOldSuperFrameNumber : UInt16 := 0
  mSuperFrameRecalc : UInt64 := 0
  mSuperFrameFirstTime : Bool := true
  mIsWorkerThreadActive : Bool
  mIsDeliveryThreadActive : Bool
  mDeliveryHOLFirstRun : Bool := true
  mNextExpectedFrameNumber : UInt64 := 0
  mCurrentMode : EFPReceiverMode

/-- The constructor. In threaded mode it also starts the two worker threads. -/
def Receiver.new (lBucketTimeoutMasterms lHolTimeoutMasterms : UInt32)
    (lReceiverMode : EFPReceiverMode) : Receiver where
  mBucketTimeoutms := lBucketTimeoutMasterms
  mHeadOfLineBlockingTimeoutms := lHolTimeoutMasterms
  mCurrentMode := lReceiverMode
  mIsWorkerThreadActive := lReceiverMode == .THREADED
  mIsDeliveryThreadActive := lReceiverMode == .THREADED

/-- What the world outside answers during one call: the clock when a bucket opens, the clock when
    a delivery pass starts, and whether the allocator finds memory. -/
structure Ambient where
  clockOpen : ℤ
  clockPass : ℤ
  allocates : Bool := true

/-- Replace one bucket of the ring. -/
def Receiver.setBucket (r : Receiver) (i : Slot) (b : Bucket) : Receiver :=
  { r with mBucketList := Function.update r.mBucketList i b }

/-- Give up a bucket: its entry leaves the map and it is no longer active. -/
def Receiver.dropBucket (r : Receiver) (i : Slot) (b : Bucket) : Receiver :=
  { r.setBucket i { b with mActive := false } with
    mBucketMap := r.mBucketMap.erase b.mDeliveryOrder }

/-- The delay from opening a bucket to its timeout, in microseconds. The product is a `uint32_t`. -/
def Receiver.bucketTimeout (r : Receiver) : ℤ := (r.mBucketTimeoutms * 1000).toNat

/-- The further delay in head-of-line mode, in microseconds. The product is a `uint32_t`. -/
def Receiver.holTimeout (r : Receiver) : ℤ := (r.mHeadOfLineBlockingTimeoutms * 1000).toNat

/-! ## §3 Renumbering -/

/-- `superFrameRecalculator`: a 64-bit counter from the 16-bit one. -/
def Receiver.superFrameRecalculator (r : Receiver) (lSuperFrame : UInt16) : UInt64 × Receiver :=
  if r.mSuperFrameFirstTime then
    (lSuperFrame.toUInt64,
      { r with
        mOldSuperFrameNumber := lSuperFrame
        mSuperFrameRecalc := lSuperFrame.toUInt64
        mSuperFrameFirstTime := false })
  else
    let lChangeValue : Int16 := lSuperFrame.toInt16 - r.mOldSuperFrameNumber.toInt16
    let mSuperFrameRecalc := r.mSuperFrameRecalc + lChangeValue.toInt64.toUInt64
    (mSuperFrameRecalc, { r with mOldSuperFrameNumber := lSuperFrame, mSuperFrameRecalc })

/-- The order that the renumbering gives to a superframe number in this state. -/
def Receiver.candidate (r : Receiver) (lSuperFrame : UInt16) : UInt64 :=
  (r.superFrameRecalculator lSuperFrame).1

/-- The state after the renumbering of a superframe number. -/
def Receiver.renumbered (r : Receiver) (lSuperFrame : UInt16) : Receiver :=
  { r with
    mOldSuperFrameNumber := lSuperFrame
    mSuperFrameRecalc := r.candidate lSuperFrame
    mSuperFrameFirstTime := false }

/-- The renumbering touches nothing but its own counters. -/
theorem Receiver.superFrameRecalculator_eq (r : Receiver) (lSuperFrame : UInt16) :
    r.superFrameRecalculator lSuperFrame = (r.candidate lSuperFrame, r.renumbered lSuperFrame) := by
  cases hfirst : r.mSuperFrameFirstTime with
  | true => simp [candidate, renumbered, superFrameRecalculator, hfirst]
  | false => simp [candidate, renumbered, superFrameRecalculator, hfirst]

/-- The first number seen is taken as it is. -/
theorem Receiver.candidate_first {r : Receiver} (lSuperFrame : UInt16)
    (hfirst : r.mSuperFrameFirstTime = true) : r.candidate lSuperFrame = lSuperFrame.toUInt64 := by
  simp [candidate, superFrameRecalculator, hfirst]

/-- Every later number moves the 64-bit counter by the signed 16-bit difference. -/
theorem Receiver.candidate_next {r : Receiver} (lSuperFrame : UInt16)
    (hfirst : r.mSuperFrameFirstTime = false) :
    (r.candidate lSuperFrame).toBitVec =
      Serial.widen r.mSuperFrameRecalc.toBitVec r.mOldSuperFrameNumber.toBitVec
        lSuperFrame.toBitVec := by
  simp [candidate, superFrameRecalculator, hfirst, Serial.widen]

/-- The first number is its own order. -/
theorem Receiver.candidate_ofInt_first {r : Receiver} {lSuperFrame : UInt16} {k : ℤ}
    (hfirst : r.mSuperFrameFirstTime = true)
    (hnumber : lSuperFrame.toBitVec = BitVec.ofInt 16 k) (hlo : 0 ≤ k) (hhi : k < 65536) :
    (r.candidate lSuperFrame).toBitVec = BitVec.ofInt 64 k := by
  rw [candidate_first lSuperFrame hfirst, UInt16.toBitVec_toUInt64, hnumber]
  exact Serial.setWidth_ofInt hlo hhi

/-- A later number that is close to the one before it has its true index as its order, when the
    counters stand at the true index `c`. -/
theorem Receiver.candidate_ofInt_next {r : Receiver} {lSuperFrame : UInt16} {c k : ℤ}
    (hfirst : r.mSuperFrameFirstTime = false)
    (hold : r.mOldSuperFrameNumber.toBitVec = BitVec.ofInt 16 c)
    (hrecalc : r.mSuperFrameRecalc.toBitVec = BitVec.ofInt 64 c)
    (hnumber : lSuperFrame.toBitVec = BitVec.ofInt 16 k)
    (hlo : -32768 ≤ k - c) (hhi : k - c ≤ 32767) :
    (r.candidate lSuperFrame).toBitVec = BitVec.ofInt 64 k := by
  rw [candidate_next lSuperFrame hfirst, hold, hrecalc, hnumber]
  apply Serial.widen_eq
  · omega
  · omega

/-- The renumbering keeps the congruence of its 64-bit counter to the 16-bit one. -/
theorem Receiver.candidate_congruent {r : Receiver}
    (hagree : r.mSuperFrameRecalc.toUInt16 = r.mOldSuperFrameNumber) (lSuperFrame : UInt16) :
    (r.candidate lSuperFrame).toUInt16 = lSuperFrame := by
  cases hfirst : r.mSuperFrameFirstTime with
  | true =>
    rw [candidate_first lSuperFrame hfirst]
    exact UInt16.toUInt16_toUInt64 lSuperFrame
  | false =>
    apply UInt16.toBitVec_inj.mp
    rw [UInt64.toBitVec_toUInt16, candidate_next lSuperFrame hfirst]
    apply Serial.setWidth_widen (by decide)
    rw [← UInt64.toBitVec_toUInt16, hagree]

end ElasticFrame
