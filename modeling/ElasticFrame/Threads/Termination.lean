import ElasticFrame.Lib.Fairness
import ElasticFrame.Threads.Shutdown

/-!
# The Threads End

After the signal of `stopReceiver`, and when no further call is made, every step of a thread that
is not blocked brings it nearer to its end (`ThreadedReceiver.ahead`), and some thread is not
blocked (`someone_moves`): whoever waits for a mutex waits for a thread that holds it and can go on,
and a `deliveryWorker` that waits for the condition variable has been woken or is about to be. So
every schedule that gives every thread its turn again and again ends with both flags cleared and
the call back at its caller (`threads_end`).
-/

namespace ElasticFrame.Threads

open ElasticFrame.Lib

variable {τ : Type}

/-! ## §1 How far it is to the end -/

/-- The steps that a push still takes. -/
def ReceiverWorkerAt.ahead : ReceiverWorkerAt → ℕ
  | .outside => 5
  | .pushBack _ => 4
  | .setReady => 3
  | .unlock => 2
  | .notifyOne => 1

/-- The steps that a signal still takes. -/
def StopReceiverAt.ahead : StopReceiverAt → ℕ
  | .outside => 5
  | .lock => 4
  | .setReady => 3
  | .unlock => 2
  | .notifyOne => 1

/-- The steps that `deliveryWorker` still takes in the loop, after the stop. -/
def DeliveryWorkerAt.ahead : DeliveryWorkerAt → ℕ
  | .lock | .waiting => 7
  | .waitTest => 6
  | .popFront => 5
  | .clearReady _ => 4
  | .unlock _ => 3
  | .receiveCallback _ => 2
  | .loopTest => 1
  | .finished => 0

/-- A bound of the steps that `receiverWorker` still takes, after the stop, when the map has this
    many entries and a push is where it is. -/
def WorkerAt.ahead (entries : ℕ) (push : ReceiverWorkerAt) : WorkerAt → ℕ
  | .readClock => 8 + 14 * entries
  | .lockNet => 7 + 14 * entries
  | .emptyTest => 6 + 14 * entries
  | .push frames rest lDeleteList =>
      6 + lDeleteList.length + 14 * rest.length + 5 * frames.length + push.ahead
  | .walk rest lDeleteList => 5 + lDeleteList.length + 14 * rest.length
  | .erase lDeleteList => 4 + lDeleteList.length
  | .begin | .unlockNet => 3
  | .loopTest => 2
  | .clearActive => 1
  | .finished => 0

/-- A bound of the steps that a call still takes. Unpacking adds an entry to the map at most. -/
def CallAt.ahead (signal : StopReceiverAt) : CallAt τ → ℕ
  | .activeTest => 3010
  | .signal _ => 3004 + signal.ahead
  | .pollWorker _ n => 3 * n + 4
  | .pollDelivery _ n => 3 * n + 3
  | .sleep _ n => 3 * n + 2
  | .readWorkerActive _ => 20
  | .readDeliveryActive _ _ => 19
  | .lockNet _ => 18
  | .unpack _ => 17
  | .unlockNet _ _ => 1
  | .deleteBuckets => 1
  | .outside | .destroyed => 0

/-- What is ahead of `receiverWorker`. -/
def ThreadedReceiver.workerAhead (s : ThreadedReceiver τ) : ℕ :=
  s.receiverWorker.ahead s.receiver.mBucketMap.size s.handOff.receiverWorker

/-- **The measure.** -/
def ThreadedReceiver.ahead (s : ThreadedReceiver τ) : ℕ :=
  s.handOff.deliveryWorker.ahead + s.mIsDeliveryThreadActive.toNat + s.workerAhead +
    s.call.ahead s.handOff.stopReceiver

/-! ## §2 Every step that is not blocked is a step ahead -/

/-- A push goes on, or waits for the mutex. -/
theorem HandOff.receiverWorkerStep_ahead (s : HandOff) (frame : SuperFrame) :
    (s.mSuperFrameMtx ≠ none ∧ s.receiverWorker = .outside ∧
        s.receiverWorkerStep frame = s) ∨
      (s.endsPush = true ∧ s.receiverWorker.ahead = 1 ∧
        (s.receiverWorkerStep frame).receiverWorker.ahead = 5) ∨
      (s.endsPush = false ∧
        (s.receiverWorkerStep frame).receiverWorker.ahead < s.receiverWorker.ahead) := by
  unfold receiverWorkerStep endsPush
  cases hat : s.receiverWorker with
  | outside =>
    simp only []
    split
    case isTrue => simp [ReceiverWorkerAt.ahead]
    case isFalse hheld => simp [hheld]
  | pushBack => simp [ReceiverWorkerAt.ahead]
  | setReady => simp [ReceiverWorkerAt.ahead]
  | unlock => simp [ReceiverWorkerAt.ahead]
  | notifyOne => simp [ReceiverWorkerAt.ahead]

/-- A signal goes on, or waits for the mutex. -/
theorem HandOff.stopReceiverStep_ahead (s : HandOff) :
    (s.mSuperFrameMtx ≠ none ∧ s.stopReceiver = .lock ∧ s.stopReceiverStep = s) ∨
      (s.endsSignal = true ∧ s.stopReceiver.ahead = 1) ∨
      (s.endsSignal = false ∧ s.stopReceiverStep.stopReceiver.ahead < s.stopReceiver.ahead) := by
  unfold stopReceiverStep endsSignal
  cases hat : s.stopReceiver with
  | outside => simp [StopReceiverAt.ahead]
  | lock =>
    simp only []
    split
    case isTrue => simp [StopReceiverAt.ahead]
    case isFalse hheld => simp [hheld]
  | setReady => simp [StopReceiverAt.ahead]
  | unlock => simp [StopReceiverAt.ahead]
  | notifyOne => simp [StopReceiverAt.ahead]

/-- A stop is not taken back. -/
theorem HandOff.stopReceiverStep_stopped (s : HandOff) (hstopped : s.stopped = true) :
    s.stopReceiverStep.stopped = true := by
  unfold stopReceiverStep
  cases s.stopReceiver with
  | lock =>
    simp only []
    split
    · exact hstopped
    · exact hstopped
  | unlock => rfl
  | _ => exact hstopped

/-- `deliveryWorker` goes on, or waits for the mutex, or for the condition variable without a
    signal. -/
theorem HandOff.deliveryWorkerStep_ahead (s : HandOff) (spuriously : Bool)
    (hcleared : s.mThreadActive = false)
    (harmed : s.deliveryWorker.mayBlock = true → s.mSuperFrameReady = true)
    (hat : s.deliveryWorker ≠ .finished) :
    (s.deliveryWorkerStep spuriously = s ∧ ((s.deliveryWorker = .lock ∧ s.mSuperFrameMtx ≠ none) ∨
        (s.deliveryWorker = .waiting ∧ (s.mSuperFrameMtx ≠ none ∨ s.signalled = false)))) ∨
      (s.deliveryWorkerStep spuriously).deliveryWorker.ahead < s.deliveryWorker.ahead := by
  unfold deliveryWorkerStep
  cases hworker : s.deliveryWorker with
  -- `mThreadActive` is cleared, so this is the last round
  | loopTest => simp [DeliveryWorkerAt.ahead, hcleared]
  | lock =>
    simp only []
    split
    case isTrue => simp [DeliveryWorkerAt.ahead]
    case isFalse hheld => simp [hheld]
  | waitTest =>
    -- the flag is up, so it does not begin to wait
    have hready := harmed (by rw [hworker]; rfl)
    simp [DeliveryWorkerAt.ahead, hready]
  | waiting =>
    simp only []
    split
    case isTrue => simp [DeliveryWorkerAt.ahead]
    case isFalse hblocked =>
      left
      refine ⟨rfl, Or.inr ⟨trivial, ?_⟩⟩
      by_contra hfree
      simp only [not_or, not_not, Bool.not_eq_false] at hfree
      exact hblocked ⟨Or.inl hfree.2, hfree.1⟩
  | popFront => simp [DeliveryWorkerAt.ahead]
  | clearReady x => simp [DeliveryWorkerAt.ahead]
  | unlock x => simp [DeliveryWorkerAt.ahead]
  | receiveCallback x => simp [DeliveryWorkerAt.ahead]
  | finished => exact absurd hworker hat

/-- Unpacking adds an entry to the map at most. -/
theorem unpackFragment_size (r : Receiver) (f : Fragment) (lFromSource : UInt8) (amb : Ambient) :
    (r.unpackFragment f lFromSource amb).receiver.mBucketMap.size ≤ r.mBucketMap.size + 1 := by
  have hinsert : ∀ k i, (r.mBucketMap.insert k i).size ≤ r.mBucketMap.size + 1 := fun k i =>
    Std.ExtTreeMap.size_insert_le
  have herase : ∀ (m : BucketMap) k, (m.erase k).size ≤ m.size := fun m k =>
    Std.ExtTreeMap.size_erase_le
  have hstep := r.unpackFragment_step f lFromSource amb
  generalize r.unpackFragment f lFromSource amb = u at hstep ⊢
  cases hstep with
  | tooOld => exact Nat.le_succ _
  -- the entry goes in and out again
  | refused => exact (herase _ _).trans (hinsert _ _)
  | opened => exact hinsert _ _
  | outOfResources => exact Nat.le_succ _
  | outOfBounds => exact (herase _ _).trans (Nat.le_succ _)
  | duplicate => exact Nat.le_succ _
  | added => exact Nat.le_succ _

/-- A call in threaded mode adds an entry to the map at most. -/
theorem receive_size {B H : UInt32} {r : Receiver} (h : r.Configured B H .THREADED)
    (p : List UInt8) (lFromSource : UInt8) (amb : Ambient) :
    (r.receiveFragmentFromPtr p lFromSource amb).receiver.mBucketMap.size ≤
      r.mBucketMap.size + 1 := by
  have hcomplete : ∀ (u : Unpacked), u.receiver.Configured B H .THREADED →
      (Receiver.completeCall u amb).receiver = u.receiver := by
    intro u hu
    have hmode : u.receiver.mCurrentMode ≠ .RUN_TO_COMPLETION := by
      rw [hu.currentMode]
      decide
    simp [Receiver.completeCall, Receiver.runIfToCompletion, hmode]
  have hstep := r.receiveFragmentFromPtr_step p lFromSource amb
  generalize r.receiveFragmentFromPtr p lFromSource amb = out at hstep ⊢
  cases hstep with
  | refused => exact Nat.le_succ _
  | cut hpacket hsize =>
    rw [hcomplete _ h]
    exact Nat.le_succ _
  | fragment f header hpacket =>
    have hunpack := h.unpack f lFromSource amb
    have hreceiver := hcomplete
      ((r.unpackFragment f lFromSource amb).reading
        (Access.packet 0 1 p.length :: packetReads p header f)) hunpack
    rw [hreceiver]
    exact unpackFragment_size r f lFromSource amb

/-! ## §3 Threads that are blocked -/

/-- Whose turn it is. -/
inductive Turn where
  | call
  | receiverWorker
  | deliveryWorker

/-- The thread that takes a step. -/
def ThreadedAction.turn : ThreadedAction τ → Turn
  | .receiveFragment _ | .stopReceiver | .destroy | .call => .call
  | .receiverWorker _ => .receiverWorker
  | .deliveryWorker _ => .deliveryWorker

/-- The thread has come to its end, or waits for a mutex or a signal. -/
def ThreadedReceiver.Blocked (s : ThreadedReceiver τ) : Turn → Prop
  | .call =>
      (s.call = .outside ∨ s.call = .destroyed) ∨
        (∃ a, s.call = .lockNet a ∧ s.mNetMtx ≠ none) ∨
        ∃ destructor, s.call = .signal destructor ∧ s.handOff.stopReceiver = .lock ∧
          s.handOff.mSuperFrameMtx ≠ none
  | .receiverWorker =>
      s.receiverWorker = .finished ∨ (s.receiverWorker = .lockNet ∧ s.mNetMtx ≠ none) ∨
        ∃ frames rest ids, s.receiverWorker = .push frames rest ids ∧
          s.handOff.receiverWorker = .outside ∧ s.handOff.mSuperFrameMtx ≠ none
  | .deliveryWorker =>
      (s.handOff.deliveryWorker = .finished ∧ s.mIsDeliveryThreadActive = false) ∨
        (s.handOff.deliveryWorker = .lock ∧ s.handOff.mSuperFrameMtx ≠ none) ∨
        s.handOff.deliveryWorker = .waiting ∧
          (s.handOff.mSuperFrameMtx ≠ none ∨ s.handOff.signalled = false)

/-- Among blocked threads nobody holds the mutex of the queue. -/
theorem ThreadedReceiver.Safe.queue_free {s : ThreadedReceiver τ} (hsafe : s.Safe)
    (hblocked : ∀ t, s.Blocked t) : s.handOff.mSuperFrameMtx = none := by
  by_contra hheld
  obtain ⟨t, ht⟩ := Option.ne_none_iff_exists'.mp hheld
  cases t with
  | receiverWorker =>
    have hholds := hsafe.handOff.workerMtx.mp ht
    have hsome : s.handOff.receiverWorker ≠ .outside := by
      intro hidle
      rw [hidle] at hholds
      exact absurd hholds (by simp [ReceiverWorkerAt.holds])
    obtain ⟨frame, more, rest, ids, hat⟩ := hsafe.pushing hsome
    rcases hblocked .receiverWorker with hend | ⟨hlock, -⟩ | ⟨_, _, _, -, hidle, -⟩
    · exact absurd (hat.symm.trans hend) (by simp)
    · exact absurd (hat.symm.trans hlock) (by simp)
    · exact hsome hidle
  | deliveryWorker =>
    have hholds := hsafe.handOff.deliveryMtx.mp ht
    rcases hblocked .deliveryWorker with ⟨hat, -⟩ | ⟨hat, -⟩ | ⟨hat, -⟩ <;>
    · rw [hat] at hholds
      exact absurd hholds (by simp [DeliveryWorkerAt.holds])
  | stopReceiver =>
    have hholds := hsafe.handOff.stopMtx.mp ht
    have hsome : s.handOff.stopReceiver ≠ .outside := by
      intro hidle
      rw [hidle] at hholds
      exact absurd hholds (by simp [StopReceiverAt.holds])
    obtain ⟨destructor, hat⟩ := hsafe.signalling hsome
    rcases hblocked .call with (hend | hend) | ⟨a, hlock, -⟩ | ⟨d, -, hlock, -⟩
    · exact absurd (hat.symm.trans hend) (by simp)
    · exact absurd (hat.symm.trans hend) (by simp)
    · exact absurd (hat.symm.trans hlock) (by simp)
    · rw [hlock] at hholds
      exact absurd hholds (by simp [StopReceiverAt.holds])

/-- Nor the mutex of the buckets. -/
theorem ThreadedReceiver.Safe.net_free {s : ThreadedReceiver τ} (hsafe : s.Safe)
    (hblocked : ∀ t, s.Blocked t) : s.mNetMtx = none := by
  have hqueue := hsafe.queue_free hblocked
  by_contra hheld
  obtain ⟨t, ht⟩ := Option.ne_none_iff_exists'.mp hheld
  cases t with
  | receiveFragment =>
    have hholds := hsafe.callNet.mp ht
    rcases hblocked .call with (hat | hat) | ⟨a, hat, -⟩ | ⟨d, hat, -⟩ <;>
    · rw [hat] at hholds
      exact absurd hholds (by simp [CallAt.holdsNet])
  | receiverWorker =>
    have hholds := hsafe.workerNet.mp ht
    rcases hblocked .receiverWorker with hat | ⟨hat, -⟩ | ⟨_, _, _, -, -, hqueue'⟩
    · rw [hat] at hholds
      exact absurd hholds (by simp [WorkerAt.holdsNet])
    · rw [hat] at hholds
      exact absurd hholds (by simp [WorkerAt.holdsNet])
    · exact hqueue' hqueue

/-- **A step of `receiverWorker` brings it nearer to the end of its pass**, unless it begins a new
    round. -/
theorem ThreadedReceiver.workerStep_ahead {s s' : ThreadedReceiver τ} (hsafe : s.Safe) {now : ℤ}
    (hstep : s.WorkerStep now s')
    (hround : s.receiverWorker = .loopTest → s.handOff.mThreadActive = false) :
    (s' = s ∧ s.Blocked .receiverWorker) ∨ s'.workerAhead < s.workerAhead := by
  cases hstep with
  | begins hat => exact Or.inr (by simp [workerAhead, hat, WorkerAt.ahead])
  | goesOn hat hactive => exact absurd ((hround hat).symm.trans hactive) (by simp)
  | ends hat hstopped => exact Or.inr (by simp [workerAhead, hat, WorkerAt.ahead])
  | sleeps hat => exact Or.inr (by simp [workerAhead, hat, WorkerAt.ahead])
  | locks hat hfree => exact Or.inr (by simp [workerAhead, hat, WorkerAt.ahead])
  | waits hat hheld => exact Or.inl ⟨rfl, Or.inr (Or.inl ⟨hat, hheld⟩)⟩
  | skips hat hempty =>
    right
    simp only [workerAhead, hat, WorkerAt.ahead]
    omega
  | starts hat hsome =>
    right
    -- the rounds ahead were counted by the size of the map
    have hlength : s.receiver.mBucketMap.toList.length = s.receiver.mBucketMap.size :=
      Std.ExtTreeMap.length_toList
    simp [workerAhead, hat, WorkerAt.ahead, hlength]
  | round e rest ids hat round hround =>
    right
    -- each round adds one push and one entry to erase at most
    have hidle := hsafe.noPush (by simp [hat])
    obtain ⟨hhanded, hlist⟩ := s.receiver.receiverWorkerRound_grows s.clock.lTimeNow e
      { s.receiver.startWalk with lDeleteList := ids }
    rw [← hround] at hhanded hlist
    have hrest : (if round.2 = true then rest else []).length ≤ rest.length := by
      split
      · exact le_rfl
      · exact Nat.zero_le _
    have hnone : s.receiver.startWalk.handed.length = 0 := rfl
    simp only [workerAhead, hat, WorkerAt.ahead, hidle, ReceiverWorkerAt.ahead, List.length_map,
      List.length_cons]
    simp only [hnone] at hhanded hlist
    omega
  | walked ids hat => exact Or.inr (by simp [workerAhead, hat, WorkerAt.ahead])
  | pushes frame more rest ids hat =>
    rcases s.handOff.receiverWorkerStep_ahead frame with
      ⟨hheld, hidle, hsame⟩ | ⟨hends, hlast, hfirst⟩ | ⟨hgoes, hless⟩
    · -- the push waits for the mutex
      left
      have hgoes : s.handOff.endsPush = false := by rw [HandOff.endsPush, hidle]
      exact ⟨by simp [hsame, hgoes, ← hat], Or.inr (Or.inr ⟨_, _, _, hat, hidle, hheld⟩)⟩
    · right
      simp only [workerAhead, hat, WorkerAt.ahead, hends, if_true, hfirst, hlast, List.length_cons]
      omega
    · right
      simp only [workerAhead, hat, WorkerAt.ahead, hgoes, List.length_cons]
      simp only [Bool.false_eq_true, if_false, List.length_cons]
      omega
  | pushed rest ids hat =>
    right
    simp only [workerAhead, hat, WorkerAt.ahead, List.length_nil]
    omega
  | erases id rest hat =>
    right
    simp only [workerAhead, hat, WorkerAt.ahead, List.length_cons]
    omega
  | erased hat => exact Or.inr (by simp [workerAhead, hat, WorkerAt.ahead])
  | unlocks hat => exact Or.inr (by simp [workerAhead, hat, WorkerAt.ahead])
  | clears hat => exact Or.inr (by simp [workerAhead, hat, WorkerAt.ahead])
  | isOver hat => exact Or.inl ⟨rfl, Or.inl hat⟩

/-- It leaves the other threads where they are. -/
theorem ThreadedReceiver.workerStep_others {s s' : ThreadedReceiver τ} {now : ℤ}
    (hstep : s.WorkerStep now s') :
    s'.handOff.deliveryWorker = s.handOff.deliveryWorker ∧
      s'.handOff.stopReceiver = s.handOff.stopReceiver ∧
      s'.mIsDeliveryThreadActive = s.mIsDeliveryThreadActive ∧ s'.call = s.call := by
  cases hstep with
  | pushes frame more rest ids hat =>
    obtain ⟨hstop, hdelivery, -⟩ := s.handOff.receiverWorkerStep_others frame
    exact ⟨hdelivery, hstop, rfl, rfl⟩
  | _ => exact ⟨rfl, rfl, rfl, rfl⟩

/-! ## §4 The states after the stop -/

/-- Both threads have cleared their flags, and the call is back at its caller. -/
def ThreadedReceiver.Over (s : ThreadedReceiver τ) : Prop :=
  s.mIsWorkerThreadActive = false ∧ s.mIsDeliveryThreadActive = false ∧
    (s.call = .outside ∨ s.call = .destroyed)

/-- The signal to stop was sent. -/
structure ThreadedReceiver.Halting (B H : UInt32) (s : ThreadedReceiver τ) : Prop where
  ending : s.Ending
  linearized : ∃ es, Linearized B H es s
  stopped : s.handOff.stopped = true

namespace ThreadedReceiver.Halting

variable {B H : UInt32} {s s' : ThreadedReceiver τ}

theorem configured (h : s.Halting B H) : s.receiver.Configured B H .THREADED := by
  obtain ⟨es, hlinearized⟩ := h.linearized
  exact hlinearized.configured

theorem cleared (h : s.Halting B H) : s.handOff.mThreadActive = false :=
  h.ending.safe.handOff.inactive (Or.inr h.stopped)

/-- A thread that may block finds the flag of the queue up. -/
theorem armed (h : s.Halting B H) :
    s.handOff.deliveryWorker.mayBlock = true → s.handOff.mSuperFrameReady = true :=
  h.ending.safe.handOff.armed h.stopped

/-- **A step of `receiverWorker` is a step ahead.** -/
private theorem workerStep (h : s.Halting B H) {now : ℤ} (hstep : s.WorkerStep now s') :
    (s' = s ∧ s.Blocked .receiverWorker) ∨ s'.ahead < s.ahead := by
  obtain ⟨hdelivery, hstop, hflag, hcall⟩ := ThreadedReceiver.workerStep_others hstep
  rcases ThreadedReceiver.workerStep_ahead h.ending.safe hstep (fun _ => h.cleared) with
    hblocked | hless
  · exact Or.inl hblocked
  · right
    rw [ahead, ahead, hdelivery, hstop, hflag, hcall]
    omega

/-- **A step of a call is a step ahead.** -/
private theorem callStep (h : s.Halting B H) (hstep : s.CallStep s') :
    (s' = s ∧ s.Blocked .call) ∨ s'.ahead < s.ahead := by
  cases hstep with
  | idle hat => exact Or.inl ⟨rfl, Or.inl (Or.inl hat)⟩
  | reads a hat => exact Or.inr (by simp [ahead, workerAhead, hat, CallAt.ahead])
  | refuses a active hat hover =>
    exact Or.inr (by simp [ahead, workerAhead, hat, CallAt.ahead, receiveReturns])
  | enters a hat hactive hunpacks => exact Or.inr (by simp [ahead, workerAhead, hat, CallAt.ahead])
  | answers a hat hactive hunpacks =>
    exact Or.inr (by simp [ahead, workerAhead, hat, CallAt.ahead, receiveReturns])
  | locks a hat hfree => exact Or.inr (by simp [ahead, workerAhead, hat, CallAt.ahead])
  | waits a hat hheld => exact Or.inl ⟨rfl, Or.inr (Or.inl ⟨a, hat, hheld⟩)⟩
  | unpacks a hat out hout =>
    right
    have hsize := receive_size h.configured a.pSubPacket a.lFromSource a.amb
    rw [← hout] at hsize
    -- the worker may have one entry more to go through
    have hworker : s.receiverWorker.ahead out.receiver.mBucketMap.size s.handOff.receiverWorker ≤
        s.receiverWorker.ahead s.receiver.mBucketMap.size s.handOff.receiverWorker + 14 := by
      cases s.receiverWorker <;> simp only [WorkerAt.ahead] <;> omega
    simp only [ahead, workerAhead, hat, CallAt.ahead]
    omega
  | unlocks a m hat =>
    exact Or.inr (by simp [ahead, workerAhead, hat, CallAt.ahead, receiveReturns])
  | signals d hat =>
    obtain ⟨hworker, hdelivery, -, -⟩ := s.handOff.stopReceiverStep_others
    rcases s.handOff.stopReceiverStep_ahead with
      ⟨hheld, hlock, hsame⟩ | ⟨hends, hlast⟩ | ⟨hgoes, hless⟩
    · -- the signal waits for the mutex
      left
      have hgoes : s.handOff.endsSignal = false := by rw [HandOff.endsSignal, hlock]
      exact ⟨by simp [hsame, hgoes, ← hat], Or.inr (Or.inr ⟨d, hat, hlock, hheld⟩)⟩
    · right
      simp [ahead, workerAhead, hat, hends, CallAt.ahead, hworker, hdelivery, hlast]
    · right
      simp [ahead, workerAhead, hat, hgoes, CallAt.ahead, hworker, hdelivery, hless]
  | workerActive d n hat hactive => exact Or.inr (by simp [ahead, workerAhead, hat, CallAt.ahead])
  | workerOver d n hat hover => exact Or.inr (by simp [ahead, workerAhead, hat, CallAt.ahead])
  | deliveryActive d n hat hactive => exact Or.inr (by simp [ahead, workerAhead, hat, CallAt.ahead])
  | stopped d n hat hover =>
    right
    cases d <;> simp [ahead, workerAhead, hat, CallAt.ahead, stopReturns]
  | givesUp d n hat hlast =>
    right
    cases d <;> simp [ahead, workerAhead, hat, CallAt.ahead, stopReturns]
  | pollsAgain d n hat hmore =>
    right
    simp only [ahead, workerAhead, hat, CallAt.ahead]
    omega
  -- the receiver is stopped already
  | asks hat hactive => exact absurd (h.cleared.symm.trans hactive) (by simp)
  | skips hat hstopped => exact Or.inr (by simp [ahead, workerAhead, hat, CallAt.ahead])
  | deletes hat => exact Or.inr (by simp [ahead, workerAhead, hat, CallAt.ahead])
  | isOver hat => exact Or.inl ⟨rfl, Or.inl (Or.inr hat)⟩

/-- **A step of `deliveryWorker` is a step ahead.** -/
private theorem deliveryStep (h : s.Halting B H) {spuriously : Bool}
    (hstep : s.DeliveryStep spuriously s') :
    (s' = s ∧ s.Blocked .deliveryWorker) ∨ s'.ahead < s.ahead := by
  cases hstep with
  | works hat =>
    obtain ⟨hworker, hstop, -⟩ := s.handOff.deliveryWorkerStep_others spuriously
    rcases s.handOff.deliveryWorkerStep_ahead spuriously h.cleared h.armed hat with
      ⟨hsame, hwaits⟩ | hless
    · left
      exact ⟨by rw [hsame], Or.inr hwaits⟩
    · right
      simp only [ahead, workerAhead, hworker, hstop]
      omega
  | clears hat =>
    cases hflag : s.mIsDeliveryThreadActive with
    | true =>
      right
      simp only [ahead, workerAhead, hflag, Bool.toNat_false, Bool.toNat_true]
      omega
    | false => exact Or.inl ⟨by rw [← hflag], Or.inl ⟨hat, hflag⟩⟩

/-- The signal stays sent. -/
theorem step (h : s.Halting B H) (action : ThreadedAction τ) : (s.step action).Halting B H := by
  obtain ⟨es, hlinearized⟩ := h.linearized
  refine ⟨h.ending.step action, ⟨_, hlinearized.step action⟩, ?_⟩
  have hstopped := h.stopped
  have hstep := s.step_cases action
  generalize s.step action = s' at hstep ⊢
  cases hstep with
  | begins => exact hstopped
  | busy => exact hstopped
  | call s' hstep =>
    cases hstep with
    | signals d hat => exact s.handOff.stopReceiverStep_stopped hstopped
    | _ => exact hstopped
  | receiverWorker now s' hstep =>
    cases hstep with
    | pushes frame more rest ids hat =>
      exact (s.handOff.receiverWorkerStep_others frame).2.2.2.1.trans hstopped
    | _ => exact hstopped
  | deliveryWorker spuriously s' hstep =>
    cases hstep with
    | works hat =>
      exact (s.handOff.deliveryWorkerStep_others spuriously).2.2.2.1.trans hstopped
    | clears hat => exact hstopped

/-- **A step is a step ahead, or the thread is blocked.** -/
theorem step_ahead (h : s.Halting B H) {action : ThreadedAction τ}
    (hcall : action.isCall = false) :
    (s.step action = s ∧ s.Blocked action.turn) ∨ (s.step action).ahead < s.ahead := by
  have hstep := s.step_cases action
  generalize s.step action = s' at hstep ⊢
  cases hstep with
  | begins action hbegins => exact absurd (hcall.symm.trans hbegins) (by simp)
  | busy action hbegins => exact absurd (hcall.symm.trans hbegins) (by simp)
  | call s' hstep => exact h.callStep hstep
  | receiverWorker now s' hstep => exact h.workerStep hstep
  | deliveryWorker spuriously s' hstep => exact h.deliveryStep hstep

/-! ## §5 Some thread is not blocked -/

/-- **Threads that are all blocked have come to their end.** -/
theorem someone_moves (h : s.Halting B H) (hopen : ¬ s.Over) : ∃ t, ¬ s.Blocked t := by
  by_contra hall
  have hblocked : ∀ t, s.Blocked t := by simpa using hall
  have hsafe := h.ending.safe
  have hqueue := hsafe.queue_free hblocked
  have hnet := hsafe.net_free hblocked
  -- with both mutexes free only a thread without a signal can wait
  have hworker : s.receiverWorker = .finished := by
    rcases hblocked .receiverWorker with hat | ⟨-, hheld⟩ | ⟨_, _, _, -, -, hheld⟩
    · exact hat
    · exact absurd hnet hheld
    · exact absurd hqueue hheld
  have hcall : s.call = .outside ∨ s.call = .destroyed := by
    rcases hblocked .call with hat | ⟨a, -, hheld⟩ | ⟨d, -, -, hheld⟩
    · exact hat
    · exact absurd hnet hheld
    · exact absurd hqueue hheld
  have hdelivery : s.mIsDeliveryThreadActive = false := by
    rcases hblocked .deliveryWorker with ⟨-, hover⟩ | ⟨-, hheld⟩ | ⟨hat, hheld | hnone⟩
    · exact hover
    · exact absurd hqueue hheld
    · exact absurd hqueue hheld
    · -- the flag of the queue is up, so somebody has notified or will
      have hpush := hsafe.noPush (by simp [hworker])
      have hsignal := hsafe.noSignal (by rcases hcall with hcall | hcall <;> simp [hcall])
      have hready := h.armed (by rw [hat]; rfl)
      rcases hsafe.handOff.wakes (by rw [HandOff.waits, hat]) hready with hsome | hwill | hwill
      · exact absurd (hnone.symm.trans hsome) (by simp)
      · exact absurd hwill (by simp [hpush, ReceiverWorkerAt.willNotify])
      · exact absurd hwill (by simp [hsignal, StopReceiverAt.willNotify])
  exact hopen ⟨h.ending.worker.mpr hworker, hdelivery, hcall⟩

end ThreadedReceiver.Halting

/-! ## §6 Every fair schedule -/

section Fair

variable {B H : UInt32} {schedule : List (ThreadedAction τ)}

/-- What single steps have to satisfy. -/
theorem halting_progress : (threadedMachine τ).Progress ThreadedAction.turn
    (fun action => action.isCall = false) (ThreadedReceiver.Halting B H)
    ThreadedReceiver.Over (fun s t => ¬ s.Blocked t) ThreadedReceiver.ahead where
  keeps := fun _ action _ h _ => h.step action
  someone := fun _ h hopen => h.someone_moves hopen
  goesOn := by
    intro s action hcall h _
    rcases h.step_ahead hcall with ⟨hsame, hblocked⟩ | hless
    · -- a blocked thread changes nothing
      have hsame : ((threadedMachine τ).step s action).1 = s := hsame
      rw [hsame]
      refine Or.inr (Or.inr ⟨le_rfl, fun t ht => ⟨?_, ht⟩⟩)
      rintro rfl
      exact ht hblocked
    · exact Or.inr (Or.inl hless)

/-- **The threads end.** When `stopReceiver` has sent its signal and no further call is made, every
    schedule that gives every thread its turn again and again comes to a state in which both threads
    have cleared their flags and the call is back at its caller. No superframe in the queue, no
    spurious wake-up and no held mutex keeps a thread from its end.

    One kind of run is of the model only: where the destructor gave up after its thousand polls, it
    frees the receiver under threads that still run, and what they do then is undefined. -/
theorem threads_end
    (hstopped : ((threadedMachine τ).run (.new τ B H) schedule).handOff.stopped = true)
    {later : ℕ → ThreadedAction τ} (hcalls : ∀ n, (later n).isCall = false)
    (hfair : Machine.Fair ThreadedAction.turn later) :
    ∃ n, ((threadedMachine τ).after
      ((threadedMachine τ).run (.new τ B H) schedule) later n).Over := by
  obtain ⟨n, -, hover⟩ := halting_progress.reaches
    ⟨ThreadedReceiver.ending_run B H schedule, ⟨_, linearized_run B H schedule⟩, hstopped⟩
    hcalls hfair
  exact ⟨n, hover⟩

/-- Every thread has its turn, one after the other, and the clock stands still. -/
def roundRobin (τ : Type) (now : ℤ) (n : ℕ) : ThreadedAction τ :=
  if n % 3 = 0 then .call else if n % 3 = 1 then .receiverWorker now else .deliveryWorker false

theorem roundRobin_fair (now : ℤ) :
    Machine.Fair ThreadedAction.turn (roundRobin τ now) := by
  intro t n
  cases t with
  | call => exact ⟨3 * n, by omega, by simp [roundRobin, ThreadedAction.turn]⟩
  | receiverWorker =>
    have hmod : (3 * n + 1) % 3 = 1 := by omega
    exact ⟨3 * n + 1, by omega, by simp [roundRobin, hmod, ThreadedAction.turn]⟩
  | deliveryWorker =>
    have hmod : (3 * n + 2) % 3 = 2 := by omega
    exact ⟨3 * n + 2, by omega, by simp [roundRobin, hmod, ThreadedAction.turn]⟩

/-- A receiver that is stopped at once, and every thread has its turn. -/
theorem threads_end_at_once :
    ∃ n, ((threadedMachine Unit).after
      ((threadedMachine Unit).run (.new Unit 100 50)
        ([.stopReceiver] ++ List.replicate 5 .call)) (roundRobin Unit 0) n).Over := by
  apply threads_end (B := 100) (H := 50) rfl _ (roundRobin_fair 0)
  intro n
  unfold roundRobin
  split_ifs <;> rfl

end Fair

end ElasticFrame.Threads
