import ElasticFrame.Receiver.Unpack

/-!
# Delivery Engines

`runToCompletionMethod`, run by the call that brings a fragment, and one pass of
`receiverWorker`, run by a thread every ten milliseconds. Both walk the map in order, hand out
what is due and delete what they handed out after the walk.

The two loops are written out separately in the source and separately here, each with its own
loop state: `runToCompletionMethod` lends the superframe to a callback and leaves it in the
bucket until the deletion, `receiverWorker` moves it into `mSuperFrameQueue` at once.

The map is not changed during the walk, so a walk is a recursion over its entries.
-/

namespace ElasticFrame

open ElasticFrame.Lib

/-- A superframe that was handed out, with the bucket it came from. -/
structure Handed where
  slot : Slot
  frame : SuperFrame

/-- What one delivery pass gives back. -/
structure Delivered where
  receiver : Receiver
  handed : List Handed

/-- The assembly of a superframe for delivery: the bucket's values go to its superframe. -/
def Bucket.assemble (b : Bucket) (d : SuperFrame) : SuperFrame :=
  { d with
    mDataContent := b.mDataContent
    mBroken := b.mFragmentCounter ≠ b.mOfFragmentNo
    mPts := b.mPts
    mDts := b.mDts
    mCode := b.mCode
    mStreamID := b.mStream
    mSource := b.mSource
    mFlags := b.mFlags
    mSuperFrameNo := b.mSavedSuperFrameNo }

/-- The variables of a delivery walk. -/
structure Walk where
  mBucketList : Slot → Bucket
  mDeliveryHOLFirstRun : Bool
  mNextExpectedFrameNumber : UInt64
  lDeleteList : List UInt64 := []
  handed : List Handed := []

/-- The walk at its start. -/
def Receiver.startWalk (r : Receiver) : Walk where
  mBucketList := r.mBucketList
  mDeliveryHOLFirstRun := r.mDeliveryHOLFirstRun
  mNextExpectedFrameNumber := r.mNextExpectedFrameNumber

/-- The receiver with the variables that a walk changed written back. -/
def Receiver.endWalk (r : Receiver) (w : Walk) : Receiver :=
  { r with
    mBucketList := w.mBucketList
    mDeliveryHOLFirstRun := w.mDeliveryHOLFirstRun
    mNextExpectedFrameNumber := w.mNextExpectedFrameNumber }

/-- `mBucketMap.begin()->second->mDeliveryOrder`, of a map that has an entry. -/
def Receiver.beginOrder (r : Receiver) : UInt64 :=
  match r.mBucketMap.toList with
  | (_, i) :: _ => (r.mBucketList i).mDeliveryOrder
  | [] => 0

/-- The deletion after a walk: every handed out entry leaves the map, its bucket is inactive and
    owns no superframe. -/
def Receiver.deleteList (r : Receiver) : List UInt64 → Receiver
  | [] => r
  | bucketID :: rest =>
      match r.mBucketMap[bucketID]? with
      | some i =>
          let r := { r with mBucketMap := r.mBucketMap.erase bucketID }
          (r.setBucket i { r.mBucketList i with mActive := false, mBucketData := none }).deleteList
            rest
      | none => r.deleteList rest

/-! ## §1 Run to completion -/

/-- Hand the superframe of a bucket to the callback. It stays in the bucket. -/
def Walk.callBack (w : Walk) (order : UInt64) (i : Slot) : Walk :=
  let b := w.mBucketList i
  let assembled := b.mBucketData.map b.assemble
  { w with
    mBucketList := Function.update w.mBucketList i { b with mBucketData := assembled }
    handed := w.handed ++ (assembled.map fun frame => { slot := i, frame }).toList
    lDeleteList := w.lDeleteList ++ [order] }

/-- The loop of `runToCompletionMethod` over the remaining entries of the map. -/
def Receiver.runToCompletionLoop (r : Receiver) (lTimeNow : ℤ) : List (UInt64 × Slot) → Walk → Walk
  | [], w => w
  | (order, i) :: rest, w =>
      if r.mHeadOfLineBlockingTimeoutms ≠ 0 then
        -- first run: set the head speculatively and go with that
        let w :=
          if w.mDeliveryHOLFirstRun then
            { w with mDeliveryHOLFirstRun := false, mNextExpectedFrameNumber := r.beginOrder }
          else w
        let b := w.mBucketList i
        if b.mDeliveryOrder = w.mNextExpectedFrameNumber ∧ b.complete then
          -- we got what we expected
          let w := w.callBack order i
          r.runToCompletionLoop lTimeNow rest
            { w with mNextExpectedFrameNumber := w.mNextExpectedFrameNumber + 1 }
        else if b.mTimeout + r.holTimeout ≤ lTimeNow then
          -- timed out: the head jumps behind this frame
          let w := w.callBack order i
          r.runToCompletionLoop lTimeNow rest
            { w with mNextExpectedFrameNumber := b.mDeliveryOrder + 1 }
        else
          -- blocked: the loop breaks
          w
      else
        let b := w.mBucketList i
        if b.mTimeout ≤ lTimeNow ∨ b.complete then
          r.runToCompletionLoop lTimeNow rest (w.callBack order i)
        else
          r.runToCompletionLoop lTimeNow rest w

/-- `runToCompletionMethod`. -/
def Receiver.runToCompletionMethod (r : Receiver) (lTimeNow : ℤ) : Delivered :=
  let w := r.runToCompletionLoop lTimeNow r.mBucketMap.toList r.startWalk
  { receiver := (r.endWalk w).deleteList w.lDeleteList, handed := w.handed }

/-! ## §2 The worker thread -/

/-- Push the superframe of a bucket onto `mSuperFrameQueue`. The bucket no longer owns it. -/
def Walk.pushBack (w : Walk) (order : UInt64) (i : Slot) : Walk :=
  let b := w.mBucketList i
  { w with
    mBucketList := Function.update w.mBucketList i { b with mBucketData := none }
    handed := w.handed ++ (b.mBucketData.map fun d => { slot := i, frame := b.assemble d }).toList
    lDeleteList := w.lDeleteList ++ [order] }

/-- The loop of `receiverWorker` over the remaining entries of the map. -/
def Receiver.receiverWorkerLoop (r : Receiver) (lTimeNow : ℤ) : List (UInt64 × Slot) → Walk → Walk
  | [], w => w
  | (order, i) :: rest, w =>
      if r.mHeadOfLineBlockingTimeoutms ≠ 0 then
        -- first run: two superframes or one that timed out set the head
        let lHasTimedOut :=
          r.mBucketMap.toList.any fun e => decide ((w.mBucketList e.2).mTimeout ≤ lTimeNow)
        if w.mDeliveryHOLFirstRun ∧ ¬ (r.mBucketMap.size > 1 ∨ lHasTimedOut) then
          w
        else
          let w :=
            if w.mDeliveryHOLFirstRun then
              { w with mDeliveryHOLFirstRun := false, mNextExpectedFrameNumber := r.beginOrder }
            else w
          let b := w.mBucketList i
          if b.mDeliveryOrder = w.mNextExpectedFrameNumber ∧ b.complete then
            let w := w.pushBack order i
            r.receiverWorkerLoop lTimeNow rest
              { w with mNextExpectedFrameNumber := w.mNextExpectedFrameNumber + 1 }
          else if b.mTimeout + r.holTimeout ≤ lTimeNow then
            let w := w.pushBack order i
            r.receiverWorkerLoop lTimeNow rest
              { w with mNextExpectedFrameNumber := b.mDeliveryOrder + 1 }
          else
            w
      else
        let b := w.mBucketList i
        if b.mTimeout ≤ lTimeNow ∨ b.complete then
          r.receiverWorkerLoop lTimeNow rest (w.pushBack order i)
        else
          r.receiverWorkerLoop lTimeNow rest w

/-- One pass of `receiverWorker`, under the lock. -/
def Receiver.receiverWorkerPass (r : Receiver) (lTimeNow : ℤ) : Delivered :=
  if r.mBucketMap.size = 0 then
    -- nothing to process
    { receiver := r, handed := [] }
  else
    let w := r.receiverWorkerLoop lTimeNow r.mBucketMap.toList r.startWalk
    { receiver := (r.endWalk w).deleteList w.lDeleteList, handed := w.handed }

end ElasticFrame
