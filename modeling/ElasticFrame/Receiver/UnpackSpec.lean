import ElasticFrame.Receiver.Unpack

/-!
# What an Unpack Function Can Do

`unpackFragment` ends in one of seven ways. `UnpackStep` lists them, each with the tests that led
there and the whole result, and `unpackFragment_step` says that nothing else happens. Every
invariant of the receiver is proved by cases on `UnpackStep`; nothing after this file unfolds the
unpack functions.
-/

namespace ElasticFrame

open ElasticFrame.Lib

/-! ## §1 Fields of the updated states -/

namespace Receiver

variable (r : Receiver)

/-- The state in which the opening branch has entered its bucket into the map and written the
    stream table. -/
def entered (f : Fragment) : Receiver :=
  { r.renumbered f.hSuperFrameNo with
    mStreams := f.noteStream r.mStreams
    mBucketMap := r.mBucketMap.insert (r.candidate f.hSuperFrameNo) f.slot }

/-- The bucket of an accepted opening: the data of the fragment is in its place. -/
def openedWith (f : Fragment) (lFromSource : UInt8) (amb : Ambient) : Bucket :=
  (r.openedBucket f lFromSource amb).copy (sizeT (f.fragmentSize * f.fragmentNo.toNat)) f.data

@[simp] theorem renumbered_list (n : UInt16) : (r.renumbered n).mBucketList = r.mBucketList := rfl

@[simp] theorem renumbered_map (n : UInt16) : (r.renumbered n).mBucketMap = r.mBucketMap := rfl

@[simp] theorem entered_list (f : Fragment) : (r.entered f).mBucketList = r.mBucketList := rfl

@[simp] theorem entered_map (f : Fragment) :
    (r.entered f).mBucketMap = r.mBucketMap.insert (r.candidate f.hSuperFrameNo) f.slot := rfl

@[simp] theorem setBucket_list (i : Slot) (b : Bucket) :
    (r.setBucket i b).mBucketList = Function.update r.mBucketList i b := rfl

@[simp] theorem setBucket_map (i : Slot) (b : Bucket) :
    (r.setBucket i b).mBucketMap = r.mBucketMap := rfl

@[simp] theorem dropBucket_list (i : Slot) (b : Bucket) :
    (r.dropBucket i b).mBucketList = Function.update r.mBucketList i { b with mActive := false } :=
  rfl

@[simp] theorem dropBucket_map (i : Slot) (b : Bucket) :
    (r.dropBucket i b).mBucketMap = r.mBucketMap.erase b.mDeliveryOrder := rfl

end Receiver

/-! ## §2 Fields of opened and filled buckets -/

namespace Bucket

variable (b : Bucket) (pos : ℕ) (bytes : List UInt8)

@[simp] theorem copy_mBucketData :
    (b.copy pos bytes).mBucketData = b.mBucketData.map fun d =>
      { d with pFrameData := d.pFrameData.map fun block => block.copy pos bytes } := rfl

end Bucket

/-- The fields of a filled bucket that every kind of fragment treats alike. -/
theorem Receiver.filledBucket_common (r : Receiver) (f : Fragment) :
    let b := r.mBucketList f.slot
    let b' := r.filledBucket f
    b'.mActive = b.mActive ∧ b'.mSavedSuperFrameNo = b.mSavedSuperFrameNo ∧
      b'.mTimeout = b.mTimeout ∧ b'.mDeliveryOrder = b.mDeliveryOrder ∧
      b'.mOfFragmentNo = b.mOfFragmentNo ∧ b'.mFragmentSize = b.mFragmentSize ∧
      b'.mSource = b.mSource ∧ b'.mFragmentCounter = b.mFragmentCounter + 1 ∧
      b'.mHaveReceivedFragment = insert f.fragmentNo b.mHaveReceivedFragment := by
  cases f <;> exact ⟨rfl, rfl, rfl, rfl, rfl, rfl, rfl, rfl, rfl⟩

/-- A superframe after the fragment was added to it, in a bucket of this fragment size. -/
def Fragment.fill (f : Fragment) (mFragmentSize : ℕ) (d : SuperFrame) : SuperFrame :=
  { d with
    mFrameSize := f.fillFrameSize mFragmentSize d.mFrameSize
    pFrameData := d.pFrameData.map fun block => block.copy (f.insertPointer mFragmentSize) f.data }

/-- A copy keeps the allocated size. -/
@[simp] theorem Fragment.fill_allocated (f : Fragment) (mFragmentSize : ℕ) (d : SuperFrame) :
    (f.fill mFragmentSize d).pFrameData.map Block.size = d.pFrameData.map Block.size := by
  cases hblock : d.pFrameData <;> simp [fill, hblock]

/-- The superframe of a filled bucket. -/
theorem Receiver.filledBucket_data (r : Receiver) (f : Fragment) :
    (r.filledBucket f).mBucketData =
      (r.mBucketList f.slot).mBucketData.map (f.fill (r.mBucketList f.slot).mFragmentSize) := by
  cases f <;> simp [filledBucket, Function.comp_def] <;> rfl

/-! ## §3 The seven outcomes -/

/-- The outcomes of `unpackFragment`, with the tests that select them. -/
inductive UnpackStep (r : Receiver) (f : Fragment) (lFromSource : UInt8) (amb : Ambient) :
    Unpacked → Prop where
  /-- The slot is free and last held this very superframe. -/
  | tooOld (hidle : (r.mBucketList f.slot).mActive = false)
      (hold : r.candidate f.hSuperFrameNo = (r.mBucketList f.slot).mDeliveryOrder) :
      UnpackStep r f lFromSource amb
        { message := .tooOldFragment, receiver := r.renumbered f.hSuperFrameNo, accesses := [] }
  /-- The bucket is opened and given up in the same call. -/
  | refused (hidle : (r.mBucketList f.slot).mActive = false)
      (hnew : r.candidate f.hSuperFrameNo ≠ (r.mBucketList f.slot).mDeliveryOrder)
      (hwhy : amb.allocates = false ∨ f.misplaced = true) :
      UnpackStep r f lFromSource amb
        { message := if amb.allocates = false then .memoryAllocationError else .bufferOutOfBounds
          receiver := (r.entered f).dropBucket f.slot (r.openedBucket f lFromSource amb)
          accesses := [Access.stream f.stream, Access.received f.fragmentNo] }
  /-- The bucket is opened. -/
  | opened (hidle : (r.mBucketList f.slot).mActive = false)
      (hnew : r.candidate f.hSuperFrameNo ≠ (r.mBucketList f.slot).mDeliveryOrder)
      (halloc : amb.allocates = true) (hplaced : f.misplaced = false) :
      UnpackStep r f lFromSource amb
        { message := .noError
          receiver := (r.entered f).setBucket f.slot (r.openedWith f lFromSource amb)
          accesses :=
            [Access.stream f.stream, Access.received f.fragmentNo,
              Access.copy (sizeT (f.fragmentSize * f.fragmentNo.toNat)) f.data.length
                (r.openedBucket f lFromSource amb).allocated] }
  /-- The slot holds another superframe. -/
  | outOfResources (hactive : (r.mBucketList f.slot).mActive = true)
      (hother : f.hSuperFrameNo ≠ (r.mBucketList f.slot).mSavedSuperFrameNo) :
      UnpackStep r f lFromSource amb
        { message := .bufferOutOfResources, receiver := r, accesses := [] }
  /-- The fragment does not fit what the bucket expects; the bucket is given up. -/
  | outOfBounds (hactive : (r.mBucketList f.slot).mActive = true)
      (hsame : f.hSuperFrameNo = (r.mBucketList f.slot).mSavedSuperFrameNo)
      (hbad : (r.mBucketList f.slot).mOfFragmentNo < f.fragmentNo ∨
        f.hOfFragmentNo ≠ (r.mBucketList f.slot).mOfFragmentNo) :
      UnpackStep r f lFromSource amb
        { message := .bufferOutOfBounds
          receiver := r.dropBucket f.slot (r.mBucketList f.slot)
          accesses := [] }
  /-- The fragment was received before. -/
  | duplicate (hactive : (r.mBucketList f.slot).mActive = true)
      (hsame : f.hSuperFrameNo = (r.mBucketList f.slot).mSavedSuperFrameNo)
      (hpos : f.fragmentNo ≤ (r.mBucketList f.slot).mOfFragmentNo)
      (hof : f.hOfFragmentNo = (r.mBucketList f.slot).mOfFragmentNo)
      (hdup : f.fragmentNo ∈ (r.mBucketList f.slot).mHaveReceivedFragment) :
      UnpackStep r f lFromSource amb
        { message := .duplicatePacketReceived
          receiver := r
          accesses := [Access.received f.fragmentNo] }
  /-- The fragment is added to the bucket. -/
  | added (hactive : (r.mBucketList f.slot).mActive = true)
      (hsame : f.hSuperFrameNo = (r.mBucketList f.slot).mSavedSuperFrameNo)
      (hpos : f.fragmentNo ≤ (r.mBucketList f.slot).mOfFragmentNo)
      (hof : f.hOfFragmentNo = (r.mBucketList f.slot).mOfFragmentNo)
      (hnew : f.fragmentNo ∉ (r.mBucketList f.slot).mHaveReceivedFragment) :
      UnpackStep r f lFromSource amb
        { message := .noError
          receiver :=
            { r.setBucket f.slot (r.filledBucket f) with mStreams := f.noteStream r.mStreams }
          accesses := Access.received f.fragmentNo :: r.fillAccesses f }

/-- **Nothing else happens.** -/
theorem Receiver.unpackFragment_step (r : Receiver) (f : Fragment) (lFromSource : UInt8)
    (amb : Ambient) : UnpackStep r f lFromSource amb (r.unpackFragment f lFromSource amb) := by
  unfold unpackFragment
  split
  case isTrue hidle =>
    unfold openBucket
    split
    case isTrue hold => exact .tooOld hidle hold
    case isFalse hnew =>
      -- a new superframe is given up when there is no memory or its fragment is misplaced
      cases halloc : amb.allocates with
      | false =>
        have hstep : UnpackStep r f lFromSource amb _ := .refused hidle hnew (Or.inl halloc)
        rw [if_pos halloc] at hstep
        exact hstep
      | true =>
        cases hplaced : f.misplaced with
        | true =>
          have hstep : UnpackStep r f lFromSource amb _ := .refused hidle hnew (Or.inr hplaced)
          rw [if_neg (by simp [halloc])] at hstep
          exact hstep
        | false => exact .opened hidle hnew halloc hplaced
  case isFalse hactive =>
    -- the tests in the order of the source: the number, the position and count, the bit set
    have hactive : (r.mBucketList f.slot).mActive = true := by simpa using hactive
    unfold fillBucket
    simp only []
    split
    case isTrue hother => exact .outOfResources hactive hother
    case isFalse hsame =>
      have hsame := not_not.mp hsame
      split
      case isTrue hbad => exact .outOfBounds hactive hsame hbad
      case isFalse hfits =>
        obtain ⟨hpos, hof⟩ := not_or.mp hfits
        have hpos := UInt16.not_lt.mp hpos
        have hof := not_not.mp hof
        split
        case isTrue hdup => exact .duplicate hactive hsame hpos hof hdup
        case isFalse hnew => exact .added hactive hsame hpos hof hnew

/-! ## §4 A free slot -/

/-- The outcomes of `unpackFragment` for a fragment whose slot is free: its result and the receiver
    after it. -/
inductive FreeStep (r : Receiver) (f : Fragment) (lFromSource : UInt8) (amb : Ambient) :
    ElasticFrameMessages → Receiver → Prop where
  | tooOld (hold : r.candidate f.hSuperFrameNo = (r.mBucketList f.slot).mDeliveryOrder) :
      FreeStep r f lFromSource amb .tooOldFragment (r.renumbered f.hSuperFrameNo)
  | refused (hnew : r.candidate f.hSuperFrameNo ≠ (r.mBucketList f.slot).mDeliveryOrder)
      (hwhy : amb.allocates = false ∨ f.misplaced = true) :
      FreeStep r f lFromSource amb
        (if amb.allocates = false then .memoryAllocationError else .bufferOutOfBounds)
        ((r.entered f).dropBucket f.slot (r.openedBucket f lFromSource amb))
  | opened (hnew : r.candidate f.hSuperFrameNo ≠ (r.mBucketList f.slot).mDeliveryOrder)
      (halloc : amb.allocates = true) (hplaced : f.misplaced = false) :
      FreeStep r f lFromSource amb .noError
        ((r.entered f).setBucket f.slot (r.openedWith f lFromSource amb))

/-- A fragment whose slot is free is too old, or it is refused, or it opens the bucket. -/
theorem Receiver.unpackFragment_freeStep {r : Receiver} {f : Fragment}
    (hidle : (r.mBucketList f.slot).mActive = false) (lFromSource : UInt8) (amb : Ambient) :
    FreeStep r f lFromSource amb (r.unpackFragment f lFromSource amb).message
      (r.unpackFragment f lFromSource amb).receiver := by
  have hstep := r.unpackFragment_step f lFromSource amb
  generalize r.unpackFragment f lFromSource amb = u at hstep ⊢
  cases hstep with
  | tooOld _ hold => exact .tooOld hold
  | refused _ hnew hwhy => exact .refused hnew hwhy
  | opened _ hnew halloc hplaced => exact .opened hnew halloc hplaced
  -- the other tests are made in a bucket in use
  | outOfResources hactive hother => exact absurd (hidle.symm.trans hactive) Bool.false_ne_true
  | outOfBounds hactive hsame hbad => exact absurd (hidle.symm.trans hactive) Bool.false_ne_true
  | duplicate hactive hsame hpos hof hdup =>
    exact absurd (hidle.symm.trans hactive) Bool.false_ne_true
  | added hactive hsame hpos hof hnew =>
    exact absurd (hidle.symm.trans hactive) Bool.false_ne_true

/-! ## §5 What unpacking leaves alone -/

/-- The settings of a receiver and the variables of its delivery are the same in both states. -/
structure Receiver.SameDelivery (r r' : Receiver) : Prop where
  bucketTimeoutms : r'.mBucketTimeoutms = r.mBucketTimeoutms
  holTimeoutms : r'.mHeadOfLineBlockingTimeoutms = r.mHeadOfLineBlockingTimeoutms
  currentMode : r'.mCurrentMode = r.mCurrentMode
  workerActive : r'.mIsWorkerThreadActive = r.mIsWorkerThreadActive
  deliveryActive : r'.mIsDeliveryThreadActive = r.mIsDeliveryThreadActive
  holFirstRun : r'.mDeliveryHOLFirstRun = r.mDeliveryHOLFirstRun
  nextExpected : r'.mNextExpectedFrameNumber = r.mNextExpectedFrameNumber

/-- Unpacking is no delivery. -/
theorem Receiver.unpackFragment_sameDelivery (r : Receiver) (f : Fragment) (lFromSource : UInt8)
    (amb : Ambient) : r.SameDelivery (r.unpackFragment f lFromSource amb).receiver := by
  have hstep := r.unpackFragment_step f lFromSource amb
  generalize r.unpackFragment f lFromSource amb = u at hstep ⊢
  cases hstep <;> exact ⟨rfl, rfl, rfl, rfl, rfl, rfl, rfl⟩

/-- A fragment changes no bucket but its own. -/
theorem Receiver.unpackFragment_other (r : Receiver) (f : Fragment) (lFromSource : UInt8)
    (amb : Ambient) {i : Slot} (hi : i ≠ f.slot) :
    (r.unpackFragment f lFromSource amb).receiver.mBucketList i = r.mBucketList i := by
  have hstep := r.unpackFragment_step f lFromSource amb
  generalize r.unpackFragment f lFromSource amb = u at hstep ⊢
  cases hstep <;> simp [hi]

end ElasticFrame
