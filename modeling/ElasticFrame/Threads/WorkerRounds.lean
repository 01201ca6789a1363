import ElasticFrame.Receiver.DeliverySpec

/-!
# A Pass of the Worker, Round by Round

`Receiver.receiverWorkerPass` is a whole pass. The thread makes it in rounds, one for each entry of
the map, and changes the members of the receiver in every round. Here is one round
(`receiverWorkerRound`), and what is left of a pass when the members are as a round left them
(`restOfPass`). A round takes its part out of what is left (`restOfPass_round`), so the rounds
together are the pass, whatever happens to the rest of the program between them.
-/

namespace ElasticFrame

/-! ## §1 One round -/

/-- One round of the loop of `receiverWorker`, and whether the loop goes on. -/
def Receiver.receiverWorkerRound (r : Receiver) (lTimeNow : ℤ) (e : UInt64 × Slot) (w : Walk) :
    Walk × Bool :=
  if r.mHeadOfLineBlockingTimeoutms ≠ 0 then
    let lHasTimedOut :=
      r.mBucketMap.toList.any fun e => decide ((w.mBucketList e.2).mTimeout ≤ lTimeNow)
    if w.mDeliveryHOLFirstRun ∧ ¬ (r.mBucketMap.size > 1 ∨ lHasTimedOut) then
      (w, false)
    else
      let w :=
        if w.mDeliveryHOLFirstRun then
          { w with mDeliveryHOLFirstRun := false, mNextExpectedFrameNumber := r.beginOrder }
        else w
      let b := w.mBucketList e.2
      if b.mDeliveryOrder = w.mNextExpectedFrameNumber ∧ b.complete then
        let w := w.pushBack e.1 e.2
        ({ w with mNextExpectedFrameNumber := w.mNextExpectedFrameNumber + 1 }, true)
      else if b.mTimeout + r.holTimeout ≤ lTimeNow then
        let w := w.pushBack e.1 e.2
        ({ w with mNextExpectedFrameNumber := b.mDeliveryOrder + 1 }, true)
      else
        (w, false)
  else
    let b := w.mBucketList e.2
    if b.mTimeout ≤ lTimeNow ∨ b.complete then (w.pushBack e.1 e.2, true) else (w, true)

/-- The loop is made of rounds. -/
theorem Receiver.receiverWorkerLoop_cons (r : Receiver) (lTimeNow : ℤ) (e : UInt64 × Slot)
    (rest : List (UInt64 × Slot)) (w : Walk) :
    r.receiverWorkerLoop lTimeNow (e :: rest) w =
      if (r.receiverWorkerRound lTimeNow e w).2 then
        r.receiverWorkerLoop lTimeNow rest (r.receiverWorkerRound lTimeNow e w).1
      else (r.receiverWorkerRound lTimeNow e w).1 := by
  obtain ⟨order, i⟩ := e
  rw [receiverWorkerLoop, receiverWorkerRound]
  by_cases hhol : r.mHeadOfLineBlockingTimeoutms ≠ 0
  · rw [if_pos hhol, if_pos hhol]
    simp only []
    generalize (if w.mDeliveryHOLFirstRun = true then
      { w with mDeliveryHOLFirstRun := false, mNextExpectedFrameNumber := r.beginOrder }
      else w) = w'
    split
    · rfl
    · split
      · rfl
      · split
        · rfl
        · rfl
  · rw [if_neg hhol, if_neg hhol]
    simp only []
    split
    · rfl
    · rfl

/-! ## §2 What a round depends on -/

/-- A walk that handed superframes out before. -/
def Walk.after (w : Walk) (handed : List Handed) : Walk := { w with handed := handed ++ w.handed }

theorem Walk.after_self (w : Walk) : { w with handed := [] }.after w.handed = w := by
  simp [Walk.after]

/-- What was handed out before plays no part. -/
theorem Receiver.receiverWorkerRound_after (r : Receiver) (lTimeNow : ℤ) (e : UInt64 × Slot)
    (w : Walk) (handed : List Handed) :
    r.receiverWorkerRound lTimeNow e (w.after handed) =
      ((r.receiverWorkerRound lTimeNow e w).1.after handed,
        (r.receiverWorkerRound lTimeNow e w).2) := by
  unfold receiverWorkerRound
  cases hfirst : w.mDeliveryHOLFirstRun <;>
    simp only [Walk.after, Walk.pushBack, hfirst] <;> split_ifs <;> simp_all

theorem Receiver.receiverWorkerLoop_after (r : Receiver) (lTimeNow : ℤ)
    (es : List (UInt64 × Slot)) (w : Walk) (handed : List Handed) :
    r.receiverWorkerLoop lTimeNow es (w.after handed) =
      (r.receiverWorkerLoop lTimeNow es w).after handed := by
  induction es generalizing w with
  | nil => rfl
  | cons e rest ih =>
    rw [receiverWorkerLoop_cons, receiverWorkerLoop_cons, receiverWorkerRound_after]
    cases (r.receiverWorkerRound lTimeNow e w).2 with
    | true => exact ih _
    | false => rfl

/-- Of the receiver a round reads the map, the timeout and the first entry's order. -/
theorem Receiver.receiverWorkerLoop_congr {r r' : Receiver}
    (hhol : r'.mHeadOfLineBlockingTimeoutms = r.mHeadOfLineBlockingTimeoutms)
    (hmap : r'.mBucketMap = r.mBucketMap) (hbegin : r'.beginOrder = r.beginOrder) (lTimeNow : ℤ)
    (es : List (UInt64 × Slot)) (w : Walk) :
    r'.receiverWorkerLoop lTimeNow es w = r.receiverWorkerLoop lTimeNow es w := by
  have hround : ∀ e w, r'.receiverWorkerRound lTimeNow e w =
      r.receiverWorkerRound lTimeNow e w := by
    intro e w
    unfold receiverWorkerRound holTimeout
    rw [hhol, hmap, hbegin]
  induction es generalizing w with
  | nil => rfl
  | cons e rest ih => rw [receiverWorkerLoop_cons, receiverWorkerLoop_cons, hround, ih]

/-- No round changes the order of a bucket. -/
theorem Receiver.receiverWorkerRound_order (r : Receiver) (lTimeNow : ℤ) (e : UInt64 × Slot)
    (w : Walk) (i : Slot) :
    ((r.receiverWorkerRound lTimeNow e w).1.mBucketList i).mDeliveryOrder =
      (w.mBucketList i).mDeliveryOrder := by
  -- the bucket that is handed out gives up its superframe and nothing else
  have hpush : ∀ w' : Walk, w'.mBucketList = w.mBucketList →
      ((w'.pushBack e.1 e.2).mBucketList i).mDeliveryOrder =
        (w.mBucketList i).mDeliveryOrder := by
    intro w' hw'
    rw [Walk.pushBack, hw']
    by_cases hi : i = e.2
    · subst hi
      simp
    · simp [hi]
  have hhead : (if w.mDeliveryHOLFirstRun = true then
      { w with mDeliveryHOLFirstRun := false, mNextExpectedFrameNumber := r.beginOrder }
      else w).mBucketList = w.mBucketList := by
    split
    · rfl
    · rfl
  unfold receiverWorkerRound
  simp only []
  generalize (if w.mDeliveryHOLFirstRun = true then
    { w with mDeliveryHOLFirstRun := false, mNextExpectedFrameNumber := r.beginOrder }
    else w) = w' at hhead ⊢
  split_ifs
  · rfl
  · exact hpush w' hhead
  · exact hpush w' hhead
  · rw [hhead]
  · exact hpush w rfl
  · rfl

/-- A round hands one superframe out at most, and puts one entry on the list. -/
theorem Receiver.receiverWorkerRound_grows (r : Receiver) (lTimeNow : ℤ) (e : UInt64 × Slot)
    (w : Walk) :
    (r.receiverWorkerRound lTimeNow e w).1.handed.length ≤ w.handed.length + 1 ∧
      (r.receiverWorkerRound lTimeNow e w).1.lDeleteList.length ≤ w.lDeleteList.length + 1 := by
  have hpush : ∀ w' : Walk, w'.handed = w.handed → w'.lDeleteList = w.lDeleteList →
      (w'.pushBack e.1 e.2).handed.length ≤ w.handed.length + 1 ∧
        (w'.pushBack e.1 e.2).lDeleteList.length ≤ w.lDeleteList.length + 1 := by
    intro w' hhanded hlist
    rw [Walk.pushBack, hhanded, hlist]
    cases (w'.mBucketList e.2).mBucketData with
    | none => simp
    | some d => simp
  have hhead : (if w.mDeliveryHOLFirstRun = true then
      { w with mDeliveryHOLFirstRun := false, mNextExpectedFrameNumber := r.beginOrder }
      else w).handed = w.handed ∧ (if w.mDeliveryHOLFirstRun = true then
      { w with mDeliveryHOLFirstRun := false, mNextExpectedFrameNumber := r.beginOrder }
      else w).lDeleteList = w.lDeleteList := by
    split
    · exact ⟨rfl, rfl⟩
    · exact ⟨rfl, rfl⟩
  unfold receiverWorkerRound
  simp only []
  generalize (if w.mDeliveryHOLFirstRun = true then
    { w with mDeliveryHOLFirstRun := false, mNextExpectedFrameNumber := r.beginOrder }
    else w) = w' at hhead ⊢
  split_ifs
  · exact ⟨Nat.le_succ _, Nat.le_succ _⟩
  · exact hpush w' hhead.1 hhead.2
  · exact hpush w' hhead.1 hhead.2
  · rw [hhead.1, hhead.2]
    exact ⟨Nat.le_succ _, Nat.le_succ _⟩
  · exact hpush w rfl rfl
  · exact ⟨Nat.le_succ _, Nat.le_succ _⟩

/-! ## §3 What is left of a pass -/

/-- What is left of a pass: the rounds for these entries, and the deletion of these and of what the
    rounds hand out. -/
def Receiver.restOfPass (r : Receiver) (lTimeNow : ℤ) (rest : List (UInt64 × Slot))
    (lDeleteList : List UInt64) : Delivered :=
  let w := r.receiverWorkerLoop lTimeNow rest { r.startWalk with lDeleteList }
  { receiver := (r.endWalk w).deleteList w.lDeleteList, handed := w.handed }

/-- At the start of a pass over a map that has entries all of it is left. -/
theorem Receiver.restOfPass_start (r : Receiver) (lTimeNow : ℤ) (hsome : r.mBucketMap.size ≠ 0) :
    r.restOfPass lTimeNow r.mBucketMap.toList [] = r.receiverWorkerPass lTimeNow := by
  rw [receiverWorkerPass, if_neg hsome]
  rfl

/-- At the end the deletion is left. -/
theorem Receiver.restOfPass_nil (r : Receiver) (lTimeNow : ℤ) (lDeleteList : List UInt64) :
    r.restOfPass lTimeNow [] lDeleteList =
      { receiver := r.deleteList lDeleteList, handed := [] } := rfl

/-- **A round takes its part out of what is left.** -/
theorem Receiver.restOfPass_round (r : Receiver) (lTimeNow : ℤ) (e : UInt64 × Slot)
    (rest : List (UInt64 × Slot)) (lDeleteList : List UInt64) :
    let round := r.receiverWorkerRound lTimeNow e { r.startWalk with lDeleteList }
    let left := (r.endWalk round.1).restOfPass lTimeNow (if round.2 then rest else [])
      round.1.lDeleteList
    r.restOfPass lTimeNow (e :: rest) lDeleteList =
      { receiver := left.receiver, handed := round.1.handed ++ left.handed } := by
  have horder := r.receiverWorkerRound_order lTimeNow e { r.startWalk with lDeleteList }
  have hloop := r.receiverWorkerLoop_cons lTimeNow e rest { r.startWalk with lDeleteList }
  generalize r.receiverWorkerRound lTimeNow e { r.startWalk with lDeleteList } = round
    at horder hloop ⊢
  intro round' left
  -- the members are as the round left them, and the rounds to come see no difference
  have hbegin : (r.endWalk round.1).beginOrder = r.beginOrder := by
    unfold beginOrder endWalk
    cases r.mBucketMap.toList with
    | nil => rfl
    | cons e' es => exact horder e'.2
  have hleft : ∀ es, (r.endWalk round.1).receiverWorkerLoop lTimeNow es
      { (r.endWalk round.1).startWalk with lDeleteList := round.1.lDeleteList } =
        r.receiverWorkerLoop lTimeNow es { round.1 with handed := [] } := by
    intro es
    refine receiverWorkerLoop_congr ?_ ?_ hbegin lTimeNow es _
    · rfl
    · rfl
  have hwhole : r.receiverWorkerLoop lTimeNow (e :: rest) { r.startWalk with lDeleteList } =
      (r.receiverWorkerLoop lTimeNow (if round.2 then rest else [])
        { round.1 with handed := [] }).after round.1.handed := by
    rw [← receiverWorkerLoop_after, Walk.after_self, hloop]
    cases round.2 with
    | true => rfl
    | false => rfl
  simp only [restOfPass, hwhole, left, round', hleft]
  rfl

end ElasticFrame
