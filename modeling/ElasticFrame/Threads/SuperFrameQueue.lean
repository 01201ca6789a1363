import ElasticFrame.Lib.Machine
import ElasticFrame.Receiver.State

/-!
# The Queue between the Threads

In threaded mode `receiverWorker` pushes superframes onto `mSuperFrameQueue`, `deliveryWorker`
pops them and calls `receiveCallback`, and `stopReceiver` ends both. `mSuperFrameReady` serves
as "the queue is not empty" and as the stop signal; the consumer clears it.

The model has one step for every access of a thread to the shared state, finer than the locked
sections: the mutex is held over several steps, and the other threads may take any of their own
steps in between that do not need it. An interleaving of whole sections is one of these runs.

- The wait on the condition variable releases the mutex; it ends when the thread was signalled or
  spuriously, takes the mutex again and repeats the test.
- `receiverWorker` may begin a push at any time, also after the stop: a pass may be under way.
- `stopReceiver` may be called again; calls do not overlap (`mReceiveMtx`).
-/

namespace ElasticFrame.Threads

open ElasticFrame.Lib

/-! ## §1 The three threads -/

/-- A thread that takes `mSuperFrameMtx`. -/
inductive Thread where
  | receiverWorker
  | deliveryWorker
  | stopReceiver
  deriving DecidableEq, Repr

/-- The next statement of `receiverWorker`. -/
inductive ReceiverWorkerAt where
  | outside
  | pushBack (frame : SuperFrame)
  | setReady
  | unlock
  | notifyOne

/-- The next statement of `deliveryWorker`. -/
inductive DeliveryWorkerAt where
  | loopTest
  | lock
  | waitTest
  | waiting
  | popFront
  | clearReady (lSuperframe : Option SuperFrame)
  | unlock (lSuperframe : Option SuperFrame)
  | receiveCallback (lSuperframe : Option SuperFrame)
  | finished

/-- The next statement of `stopReceiver`. -/
inductive StopReceiverAt where
  | outside
  | lock
  | setReady
  | unlock
  | notifyOne

/-- The shared state, the threads, and the history of pushes, callbacks and stops. -/
structure HandOff where
  mThreadActive : Bool := true
  mSuperFrameQueue : List SuperFrame := []
  mSuperFrameReady : Bool := false
  mSuperFrameMtx : Option Thread := none
  /-- The condition variable has a signal for the waiting thread. -/
  signalled : Bool := false
  receiverWorker : ReceiverWorkerAt := .outside
  deliveryWorker : DeliveryWorkerAt := .loopTest
  stopReceiver : StopReceiverAt := .outside
  pushed : List SuperFrame := []
  delivered : List SuperFrame := []
  /-- `stopReceiver` has left its locked section. -/
  stopped : Bool := false

/-- `deliveryWorker` is blocked in the wait. -/
def HandOff.waits (s : HandOff) : Bool :=
  match s.deliveryWorker with
  | .waiting => true
  | _ => false

/-- `mSuperFrameDeliveryConditionVariable.notify_one()`. -/
def HandOff.notifyOne (s : HandOff) : HandOff :=
  { s with signalled := s.signalled || s.waits }

/-- One step of `receiverWorker`: a superframe is pushed under the lock, then the notification. -/
def HandOff.receiverWorkerStep (s : HandOff) (frame : SuperFrame) : HandOff :=
  match s.receiverWorker with
  | .outside =>
      if s.mSuperFrameMtx = none then
        { s with mSuperFrameMtx := some .receiverWorker, receiverWorker := .pushBack frame }
      else s
  | .pushBack frame =>
      { s with
        mSuperFrameQueue := s.mSuperFrameQueue ++ [frame]
        pushed := s.pushed ++ [frame]
        receiverWorker := .setReady }
  | .setReady => { s with mSuperFrameReady := true, receiverWorker := .unlock }
  | .unlock => { s with mSuperFrameMtx := none, receiverWorker := .notifyOne }
  | .notifyOne => { s.notifyOne with receiverWorker := .outside }

/-- One step of `deliveryWorker`. A wait may also end `spuriously`. -/
def HandOff.deliveryWorkerStep (s : HandOff) (spuriously : Bool) : HandOff :=
  match s.deliveryWorker with
  | .loopTest => { s with deliveryWorker := if s.mThreadActive then .lock else .finished }
  | .lock =>
      if s.mSuperFrameMtx = none then
        { s with mSuperFrameMtx := some .deliveryWorker, deliveryWorker := .waitTest }
      else s
  | .waitTest =>
      if s.mSuperFrameReady then { s with deliveryWorker := .popFront }
      else { s with mSuperFrameMtx := none, signalled := false, deliveryWorker := .waiting }
  | .waiting =>
      if (s.signalled ∨ spuriously) ∧ s.mSuperFrameMtx = none then
        { s with mSuperFrameMtx := some .deliveryWorker, deliveryWorker := .waitTest }
      else s
  | .popFront =>
      { s with
        mSuperFrameQueue := s.mSuperFrameQueue.tail
        deliveryWorker := .clearReady s.mSuperFrameQueue.head? }
  | .clearReady lSuperframe =>
      -- if there is more to pop, the flag stays
      { s with
        mSuperFrameReady := if s.mSuperFrameQueue.isEmpty then false else s.mSuperFrameReady
        deliveryWorker := .unlock lSuperframe }
  | .unlock lSuperframe =>
      { s with mSuperFrameMtx := none, deliveryWorker := .receiveCallback lSuperframe }
  | .receiveCallback lSuperframe =>
      { s with delivered := s.delivered ++ lSuperframe.toList, deliveryWorker := .loopTest }
  | .finished => s

/-- One step of `stopReceiver`. -/
def HandOff.stopReceiverStep (s : HandOff) : HandOff :=
  match s.stopReceiver with
  | .outside => { s with mThreadActive := false, stopReceiver := .lock }
  | .lock =>
      if s.mSuperFrameMtx = none then
        { s with mSuperFrameMtx := some .stopReceiver, stopReceiver := .setReady }
      else s
  | .setReady => { s with mSuperFrameReady := true, stopReceiver := .unlock }
  | .unlock => { s with mSuperFrameMtx := none, stopped := true, stopReceiver := .notifyOne }
  | .notifyOne => { s.notifyOne with stopReceiver := .outside }

/-- Which thread takes its next step. A thread that is blocked stays where it is. -/
inductive Action where
  | receiverWorker (frame : SuperFrame)
  | deliveryWorker (spuriously : Bool)
  | stopReceiver

/-- One step of one thread. -/
def HandOff.step (s : HandOff) : Action → HandOff
  | .receiverWorker frame => s.receiverWorkerStep frame
  | .deliveryWorker spuriously => s.deliveryWorkerStep spuriously
  | .stopReceiver => s.stopReceiverStep

/-- The machine of the three threads. -/
def handOffMachine : Machine HandOff Action Unit := ⟨fun s a => (s.step a, ())⟩

/-! ## §2 The invariant -/

/-- `receiverWorker` is inside its locked section. -/
def ReceiverWorkerAt.holds : ReceiverWorkerAt → Bool
  | .pushBack _ | .setReady | .unlock => true
  | _ => false

/-- `deliveryWorker` is inside its locked section. -/
def DeliveryWorkerAt.holds : DeliveryWorkerAt → Bool
  | .waitTest | .popFront | .clearReady _ | .unlock _ => true
  | _ => false

/-- `stopReceiver` is inside its locked section. -/
def StopReceiverAt.holds : StopReceiverAt → Bool
  | .setReady | .unlock => true
  | _ => false

/-- The superframe that `deliveryWorker` has popped and not yet passed on. -/
def DeliveryWorkerAt.inHand : DeliveryWorkerAt → List SuperFrame
  | .clearReady x | .unlock x | .receiveCallback x => x.toList
  | _ => []

/-- `deliveryWorker` passed the loop test and may still block in the wait. -/
def DeliveryWorkerAt.mayBlock : DeliveryWorkerAt → Bool
  | .lock | .waitTest | .waiting => true
  | _ => false

/-- `receiverWorker` has set the flag and will notify. -/
def ReceiverWorkerAt.willNotify : ReceiverWorkerAt → Bool
  | .unlock | .notifyOne => true
  | _ => false

/-- `stopReceiver` has set the flag and will notify. -/
def StopReceiverAt.willNotify : StopReceiverAt → Bool
  | .unlock | .notifyOne => true
  | _ => false

/-- **The invariant of the hand-over.** -/
structure HandOff.Safe (s : HandOff) : Prop where
  /-- The mutex is held by the thread that is inside its section. -/
  workerMtx : s.mSuperFrameMtx = some .receiverWorker ↔ s.receiverWorker.holds = true
  deliveryMtx : s.mSuperFrameMtx = some .deliveryWorker ↔ s.deliveryWorker.holds = true
  stopMtx : s.mSuperFrameMtx = some .stopReceiver ↔ s.stopReceiver.holds = true
  /-- Pushed is delivered, in hand, or in the queue, in this order. -/
  ledger : s.pushed = s.delivered ++ s.deliveryWorker.inHand ++ s.mSuperFrameQueue
  /-- Only the pushing thread sees a queue that is not empty with the flag still down. -/
  ready : s.mSuperFrameQueue ≠ [] → s.mSuperFrameReady = true ∨ s.receiverWorker = .setReady
  inactive : s.stopReceiver ≠ .outside ∨ s.stopped = true → s.mThreadActive = false
  raised : s.stopReceiver = .unlock → s.mSuperFrameReady = true
  /-- After the stop the flag stays up until `deliveryWorker` is through. -/
  armed : s.stopped = true → s.deliveryWorker.mayBlock = true → s.mSuperFrameReady = true
  /-- A blocked `deliveryWorker` with the flag up has a signal, or will get one. -/
  wakes : s.waits = true → s.mSuperFrameReady = true →
    s.signalled = true ∨ s.receiverWorker.willNotify = true ∨ s.stopReceiver.willNotify = true

/-- At the start nothing is held, pushed or popped. -/
theorem HandOff.safe_start : ({} : HandOff).Safe where
  workerMtx := by simp [ReceiverWorkerAt.holds]
  deliveryMtx := by simp [DeliveryWorkerAt.holds]
  stopMtx := by simp [StopReceiverAt.holds]
  ledger := rfl
  ready := fun h => absurd rfl h
  inactive := by simp
  raised := by simp
  armed := by simp
  wakes := by simp [HandOff.waits]

/-! ## §3 One step -/

namespace HandOff.Safe

variable {s : HandOff}

/-- **A step of `receiverWorker` keeps the invariant.** -/
theorem receiverWorkerStep (h : s.Safe) (frame : SuperFrame) :
    (s.receiverWorkerStep frame).Safe := by
  have hworker := h.workerMtx
  have hready := h.ready
  have hwakes := h.wakes
  unfold HandOff.receiverWorkerStep
  cases hat : s.receiverWorker with
  | outside =>
    rw [hat] at hready hwakes
    show HandOff.Safe (if s.mSuperFrameMtx = none then _ else s)
    split
    case isTrue hfree =>
      exact { h with
        workerMtx := iff_of_true rfl rfl
        deliveryMtx := by simpa [hfree] using h.deliveryMtx
        stopMtx := by simpa [hfree] using h.stopMtx
        ready := fun hsome => Or.inl ((hready hsome).resolve_right (by simp))
        wakes := hwakes }
    case isFalse => exact h
  | pushBack frame =>
    -- the queue has something and the flag may be down until the next step
    rw [hat] at hworker hwakes
    exact { h with
      workerMtx := hworker
      ledger := by simp [h.ledger]
      ready := fun _ => Or.inr rfl
      wakes := hwakes }
  | setReady =>
    rw [hat] at hworker
    exact { h with
      workerMtx := hworker
      ready := fun _ => Or.inl rfl
      raised := fun _ => rfl
      armed := fun _ _ => rfl
      -- the notification is still to come
      wakes := fun _ _ => Or.inr (Or.inl rfl) }
  | unlock =>
    rw [hat] at hready
    have hheld : s.mSuperFrameMtx = some .receiverWorker := hworker.mpr (by rw [hat]; rfl)
    exact { h with
      workerMtx := by simp [ReceiverWorkerAt.holds]
      deliveryMtx := by simpa [hheld] using h.deliveryMtx
      stopMtx := by simpa [hheld] using h.stopMtx
      ready := fun hsome => Or.inl ((hready hsome).resolve_right (by simp))
      wakes := fun _ _ => Or.inr (Or.inl rfl) }
  | notifyOne =>
    rw [hat] at hworker hready
    exact { h with
      workerMtx := hworker
      ready := fun hsome => Or.inl ((hready hsome).resolve_right (by simp))
      -- a thread that waits has its signal now
      wakes := fun hwaits _ => Or.inl (by
        show (s.signalled || s.waits) = true
        have hwaits : s.waits = true := hwaits
        rw [hwaits, Bool.or_true]) }

/-- **A step of `stopReceiver` keeps the invariant.** -/
theorem stopReceiverStep (h : s.Safe) : s.stopReceiverStep.Safe := by
  have hstop := h.stopMtx
  have hinactive := h.inactive
  have hwakes := h.wakes
  unfold HandOff.stopReceiverStep
  cases hat : s.stopReceiver with
  | outside =>
    rw [hat] at hstop hwakes
    exact { h with
      stopMtx := hstop
      inactive := fun _ => rfl
      raised := fun hunlock => absurd hunlock (by simp)
      wakes := hwakes }
  | lock =>
    rw [hat] at hinactive hwakes
    show HandOff.Safe (if s.mSuperFrameMtx = none then _ else s)
    split
    case isTrue hfree =>
      exact { h with
        workerMtx := by simpa [hfree] using h.workerMtx
        deliveryMtx := by simpa [hfree] using h.deliveryMtx
        stopMtx := iff_of_true rfl rfl
        inactive := fun _ => hinactive (Or.inl (by simp))
        raised := fun hunlock => absurd hunlock (by simp)
        wakes := hwakes }
    case isFalse => exact h
  | setReady =>
    rw [hat] at hstop hinactive
    exact { h with
      stopMtx := hstop
      ready := fun _ => Or.inl rfl
      inactive := fun _ => hinactive (Or.inl (by simp))
      raised := fun _ => rfl
      armed := fun _ _ => rfl
      -- the notification is still to come
      wakes := fun _ _ => Or.inr (Or.inr rfl) }
  | unlock =>
    rw [hat] at hinactive
    have hheld : s.mSuperFrameMtx = some .stopReceiver := hstop.mpr (by rw [hat]; rfl)
    exact { h with
      workerMtx := by simpa [hheld] using h.workerMtx
      deliveryMtx := by simpa [hheld] using h.deliveryMtx
      stopMtx := by simp [StopReceiverAt.holds]
      inactive := fun _ => hinactive (Or.inl (by simp))
      raised := fun hunlock => absurd hunlock (by simp)
      -- the flag was raised in this section, and nobody else could clear it
      armed := fun _ _ => h.raised hat
      wakes := fun _ _ => Or.inr (Or.inr rfl) }
  | notifyOne =>
    rw [hat] at hstop hinactive
    exact { h with
      stopMtx := hstop
      inactive := fun _ => hinactive (Or.inl (by simp))
      raised := fun hunlock => absurd hunlock (by simp)
      wakes := fun hwaits _ => Or.inl (by
        show (s.signalled || s.waits) = true
        have hwaits : s.waits = true := hwaits
        rw [hwaits, Bool.or_true]) }

/-- While `deliveryWorker` is inside its section, no other thread is. -/
private theorem alone (h : s.Safe) (hholds : s.deliveryWorker.holds = true) :
    s.mSuperFrameMtx = some .deliveryWorker ∧ s.receiverWorker.holds = false ∧
      s.stopReceiver.holds = false := by
  have hheld := h.deliveryMtx.mpr hholds
  exact ⟨hheld, by simpa [hheld] using h.workerMtx, by simpa [hheld] using h.stopMtx⟩

/-- What leaves the queue is in hand. -/
private theorem popped (h : s.Safe) (hnone : s.deliveryWorker.inHand = []) :
    s.pushed = s.delivered ++ s.mSuperFrameQueue.head?.toList ++ s.mSuperFrameQueue.tail := by
  have hledger := h.ledger
  rw [hnone, List.append_nil] at hledger
  rw [hledger, List.append_assoc]
  cases s.mSuperFrameQueue with
  | nil => rfl
  | cons x rest => rfl

/-- The flag goes down only with an empty queue. -/
private theorem cleared (h : s.Safe) (hsome : s.mSuperFrameQueue ≠ []) :
    (if s.mSuperFrameQueue.isEmpty then false else s.mSuperFrameReady) = true ∨
      s.receiverWorker = .setReady := by
  rcases h.ready hsome with hup | hpushing
  · left
    rw [if_neg (by simpa using hsome)]
    exact hup
  · exact Or.inr hpushing

/-- The free mutex is taken, in front of the section or out of the wait, and the test is next. -/
private theorem locked (h : s.Safe) (hfree : s.mSuperFrameMtx = none)
    (hnone : s.deliveryWorker.inHand = []) (hblock : s.deliveryWorker.mayBlock = true) :
    HandOff.Safe
      { s with mSuperFrameMtx := some .deliveryWorker, deliveryWorker := .waitTest } := by
  have hledger := h.ledger
  rw [hnone] at hledger
  exact { h with
    workerMtx := by simpa [hfree] using h.workerMtx
    deliveryMtx := iff_of_true rfl rfl
    stopMtx := by simpa [hfree] using h.stopMtx
    ledger := hledger
    armed := fun hstopped _ => h.armed hstopped hblock
    wakes := fun hwaits => absurd hwaits (by simp [HandOff.waits]) }

/-- **A step of `deliveryWorker` keeps the invariant.** -/
theorem deliveryWorkerStep (h : s.Safe) (spuriously : Bool) :
    (s.deliveryWorkerStep spuriously).Safe := by
  have hdelivery := h.deliveryMtx
  have hledger := h.ledger
  have harmed := h.armed
  have halone := h.alone
  unfold HandOff.deliveryWorkerStep
  cases hat : s.deliveryWorker with
  | loopTest =>
    rw [hat] at hdelivery hledger
    show HandOff.Safe { s with deliveryWorker := if s.mThreadActive then .lock else .finished }
    split
    case isTrue hactive =>
      exact { h with
        deliveryMtx := hdelivery
        ledger := hledger
        -- after the stop the loop test fails
        armed := fun hstopped _ => by
          rw [h.inactive (Or.inr hstopped)] at hactive
          exact absurd hactive (by simp)
        wakes := fun hwaits => absurd hwaits (by simp [HandOff.waits]) }
    case isFalse =>
      exact { h with
        deliveryMtx := hdelivery
        ledger := hledger
        armed := fun _ hblock => absurd hblock (by simp [DeliveryWorkerAt.mayBlock])
        wakes := fun hwaits => absurd hwaits (by simp [HandOff.waits]) }
  | lock =>
    show HandOff.Safe (if s.mSuperFrameMtx = none then _ else s)
    split
    case isTrue hfree => exact h.locked hfree (by rw [hat]; rfl) (by rw [hat]; rfl)
    case isFalse => exact h
  | waitTest =>
    rw [hat] at hdelivery hledger harmed halone
    obtain ⟨hheld, hworker, hstop⟩ := halone rfl
    show HandOff.Safe (if s.mSuperFrameReady then _ else _)
    split
    case isTrue hready =>
      exact { h with
        deliveryMtx := iff_of_true hheld rfl
        ledger := hledger
        armed := fun _ hblock => absurd hblock (by simp [DeliveryWorkerAt.mayBlock])
        wakes := fun hwaits => absurd hwaits (by simp [HandOff.waits]) }
    case isFalse hready =>
      -- the wait is entered with the flag down, so no signal is missed
      exact { h with
        workerMtx := by simp [hworker]
        deliveryMtx := by simp [DeliveryWorkerAt.holds]
        stopMtx := by simp [hstop]
        ledger := hledger
        armed := harmed
        wakes := fun _ hup => absurd hup hready }
  | waiting =>
    show HandOff.Safe (if (s.signalled ∨ spuriously) ∧ s.mSuperFrameMtx = none then _ else s)
    split
    case isTrue hwoken => exact h.locked hwoken.2 (by rw [hat]; rfl) (by rw [hat]; rfl)
    case isFalse => exact h
  | popFront =>
    rw [hat] at halone
    obtain ⟨hheld, hworker, hstop⟩ := halone rfl
    exact { h with
      deliveryMtx := iff_of_true hheld rfl
      ledger := h.popped (by rw [hat]; rfl)
      ready := fun hsome => h.ready fun hempty => hsome (by simp [hempty])
      armed := fun _ hblock => absurd hblock (by simp [DeliveryWorkerAt.mayBlock])
      wakes := fun hwaits => absurd hwaits (by simp [HandOff.waits]) }
  | clearReady x =>
    rw [hat] at hledger halone
    obtain ⟨hheld, hworker, hstop⟩ := halone rfl
    refine { h with
      deliveryMtx := iff_of_true hheld rfl
      ledger := hledger
      ready := h.cleared
      raised := ?_
      armed := fun _ hblock => absurd hblock (by simp [DeliveryWorkerAt.mayBlock])
      wakes := fun hwaits => absurd hwaits (by simp [HandOff.waits]) }
    -- `stopReceiver` is not inside its section
    intro hunlock
    have hunlock : s.stopReceiver = .unlock := hunlock
    rw [hunlock] at hstop
    exact absurd hstop (by simp [StopReceiverAt.holds])
  | unlock x =>
    rw [hat] at hledger halone
    obtain ⟨hheld, hworker, hstop⟩ := halone rfl
    exact { h with
      workerMtx := by simp [hworker]
      deliveryMtx := by simp [DeliveryWorkerAt.holds]
      stopMtx := by simp [hstop]
      ledger := hledger
      armed := fun _ hblock => absurd hblock (by simp [DeliveryWorkerAt.mayBlock])
      wakes := fun hwaits => absurd hwaits (by simp [HandOff.waits]) }
  | receiveCallback x =>
    rw [hat] at hdelivery hledger
    exact { h with
      deliveryMtx := hdelivery
      ledger := by simpa [DeliveryWorkerAt.inHand] using hledger
      armed := fun _ hblock => absurd hblock (by simp [DeliveryWorkerAt.mayBlock])
      wakes := fun hwaits => absurd hwaits (by simp [HandOff.waits]) }
  | finished => exact h

/-- **Step lemma.** -/
theorem step (h : s.Safe) (a : Action) : (s.step a).Safe := by
  cases a with
  | receiverWorker frame => exact h.receiverWorkerStep frame
  | deliveryWorker spuriously => exact h.deliveryWorkerStep spuriously
  | stopReceiver => exact h.stopReceiverStep

end HandOff.Safe

/-! ## §4 Every interleaving -/

/-- **Run lemma.** -/
theorem safe_run (schedule : List Action) : (handOffMachine.run {} schedule).Safe :=
  handOffMachine.run_invariant (I := HandOff.Safe) (C := fun _ _ => True) HandOff.safe_start
    (fun _ a _ h => h.step a) fun _ _ _ => trivial

/-- **The hand-over loses, reorders and strands nothing.** For every interleaving of any number of
    steps: while the mutex is free, a queue that is not empty has the flag up; what was passed to
    `receiveCallback` is a prefix of what was pushed; and once `stopReceiver` has left its locked
    section, `deliveryWorker` is not blocked with the flag down. Moreover a blocked `deliveryWorker`
    whose flag is up has a signal or is about to get one, so no wake-up is lost. -/
theorem handOff_safe (schedule : List Action) :
    let s := handOffMachine.run {} schedule
    (s.mSuperFrameMtx = none → s.mSuperFrameQueue ≠ [] → s.mSuperFrameReady = true) ∧
    s.delivered <+: s.pushed ∧
    (s.stopped = true → ¬ (s.deliveryWorker = .waiting ∧ s.mSuperFrameReady = false)) ∧
    (s.deliveryWorker = .waiting → s.mSuperFrameReady = true →
      s.signalled = true ∨ s.receiverWorker.willNotify = true ∨
        s.stopReceiver.willNotify = true) := by
  intro s
  have h : s.Safe := safe_run schedule
  refine ⟨?_, ?_, ?_, ?_⟩
  · intro hfree hsome
    rcases h.ready hsome with hup | hpushing
    · exact hup
    · -- the pushing thread would hold the mutex
      have hheld := h.workerMtx.mpr (by rw [hpushing]; rfl)
      rw [hfree] at hheld
      exact absurd hheld (by simp)
  · rw [h.ledger, List.append_assoc]
    exact List.prefix_append _ _
  · -- the flag that `stopReceiver` raised is still up for a thread that may block
    rintro hstopped ⟨hwaiting, hdown⟩
    have hup := h.armed hstopped (by rw [hwaiting]; rfl)
    rw [hdown] at hup
    exact absurd hup (by simp)
  · intro hwaiting hup
    exact h.wakes (by rw [HandOff.waits, hwaiting]) hup

end ElasticFrame.Threads
