import ElasticFrame.Threads.Linearization

/-!
# Stopping the Threads

`stopReceiver` clears `mThreadActive`, wakes `deliveryWorker`, and polls the flags of the two
threads a thousand times. The destructor calls it when `mThreadActive` is still set, and frees the
buckets whatever it said.

- `stop_takes_effect`: what still gets through once `mThreadActive` is cleared
- `stopped_for_good`: after `noError` nothing moves any more
- `freed_after_the_threads`: the buckets outlive the threads, unless a stop gave up
-/

namespace ElasticFrame.Threads

open ElasticFrame.Lib

variable {τ : Type}

/-! ## §1 The invariant -/

/-- The call is inside `stopReceiver`. -/
def CallAt.stops : CallAt τ → Bool
  | .signal _ | .pollWorker _ _ | .pollDelivery _ _ | .sleep _ _ => true
  | _ => false

/-- The call has sent the signal and polls. -/
def CallAt.polls : CallAt τ → Bool
  | .pollWorker _ _ | .pollDelivery _ _ | .sleep _ _ => true
  | _ => false

/-- The destructor has called `stopReceiver`, or found that it need not. -/
def CallAt.frees : CallAt τ → Bool
  | .deleteBuckets | .destroyed => true
  | _ => false

/-- The call found no active thread where it looked for one. -/
def CallAt.settled : CallAt τ → Bool
  | .readDeliveryActive _ active => !active
  | .lockNet _ | .unpack _ | .unlockNet _ _ | .sleep _ _ => false
  | _ => true

/-- The worker is past its loop. -/
def WorkerAt.left : WorkerAt → Bool
  | .clearActive | .finished => true
  | _ => false

/-- **The invariant of the end.** -/
structure ThreadedReceiver.Ending (s : ThreadedReceiver τ) : Prop where
  safe : s.Safe
  /-- A thread clears its flag at its end, and leaves its loop only when it is told to. -/
  worker : s.mIsWorkerThreadActive = false ↔ s.receiverWorker = .finished
  delivery : s.mIsDeliveryThreadActive = false → s.handOff.deliveryWorker = .finished
  workerLeft : s.receiverWorker.left = true → s.handOff.mThreadActive = false
  deliveryLeft : s.handOff.deliveryWorker = .finished → s.handOff.mThreadActive = false
  /-- Threads are told to stop by `stopReceiver`, which either comes back or is under way. -/
  told : s.handOff.mThreadActive = false →
    s.call.stops = true ∨ ∃ message, Return.stopReceiver message ∈ s.returned
  signalled : s.handOff.mThreadActive = false →
    s.handOff.stopReceiver ≠ .outside ∨ s.handOff.stopped = true
  notifies : s.handOff.endsSignal = true → s.handOff.stopped = true
  polls : s.call.polls = true → s.handOff.stopped = true
  polled : ∀ destructor n, s.call = .pollDelivery destructor n → s.mIsWorkerThreadActive = false
  /-- What `noError` says. -/
  sound : Return.stopReceiver .noError ∈ s.returned →
    s.mIsWorkerThreadActive = false ∧ s.mIsDeliveryThreadActive = false ∧ s.call.settled = true
  frees : s.call.frees = true → s.handOff.mThreadActive = false

/-- At the start both threads are active. -/
theorem ThreadedReceiver.ending_new (B H : UInt32) : (ThreadedReceiver.new τ B H).Ending where
  safe := ThreadedReceiver.safe_new B H
  worker := by simp [new]
  delivery := by simp [new]
  workerLeft := by simp [new, WorkerAt.left]
  deliveryLeft := by simp [new]
  told := by simp [new]
  signalled := by simp [new]
  notifies := by simp [new, HandOff.endsSignal]
  polls := by simp [new, CallAt.polls]
  polled := by simp [new]
  sound := by simp [new]
  frees := by simp [new, CallAt.frees]

/-- `deliveryWorker` leaves its loop only when it finds `mThreadActive` cleared. -/
theorem HandOff.deliveryWorkerStep_left (s : HandOff) {spuriously : Bool}
    (hat : s.deliveryWorker ≠ .finished)
    (hleft : (s.deliveryWorkerStep spuriously).deliveryWorker = .finished) :
    s.mThreadActive = false := by
  unfold deliveryWorkerStep at hleft
  cases hworker : s.deliveryWorker <;> simp_all
  all_goals split at hleft <;> simp_all

/-- Nothing sets `mThreadActive` again. -/
theorem HandOff.stopReceiverStep_cleared (s : HandOff) (hcleared : s.mThreadActive = false) :
    s.stopReceiverStep.mThreadActive = false := by
  unfold stopReceiverStep
  cases s.stopReceiver with
  | lock =>
    simp only []
    split
    · exact hcleared
    · exact hcleared
  | outside => rfl
  | setReady => exact hcleared
  | unlock => exact hcleared
  | notifyOne => exact hcleared

/-- The signal leaves the queue alone. -/
theorem HandOff.stopReceiverStep_queue (s : HandOff) :
    s.stopReceiverStep.mSuperFrameQueue = s.mSuperFrameQueue := by
  unfold stopReceiverStep
  cases s.stopReceiver with
  | lock =>
    simp only []
    split
    · rfl
    · rfl
  | _ => rfl

/-- The signal: `mThreadActive` is cleared by its first statement, and its last one comes after
    the section in which the stop is announced. -/
theorem HandOff.stopReceiverStep_told (s : HandOff)
    (hinactive : s.stopReceiver ≠ .outside ∨ s.stopped = true → s.mThreadActive = false)
    (hnotifies : s.endsSignal = true → s.stopped = true) :
    s.stopReceiverStep.mThreadActive = false ∧
      (s.stopReceiverStep.stopReceiver ≠ .outside ∨ s.stopReceiverStep.stopped = true) ∧
      (s.stopReceiverStep.endsSignal = true ∨ s.endsSignal = true →
        s.stopReceiverStep.stopped = true) := by
  unfold stopReceiverStep
  cases hat : s.stopReceiver with
  | outside => simp [endsSignal, hat]
  | lock =>
    have htold := hinactive (Or.inl (by simp [hat]))
    simp only []
    split
    · simp [endsSignal, htold, hat]
    · simp [endsSignal, htold, hat]
  | setReady =>
    have htold := hinactive (Or.inl (by simp [hat]))
    simp [endsSignal, htold, hat]
  | unlock =>
    have htold := hinactive (Or.inl (by simp [hat]))
    simp [htold]
  | notifyOne =>
    have htold := hinactive (Or.inl (by simp [hat]))
    have hstopped : s.stopped = true := hnotifies (by rw [endsSignal, hat])
    simp [HandOff.notifyOne, htold, hstopped]

namespace ThreadedReceiver.Ending

variable {s s' : ThreadedReceiver τ}

/-- The worker moves on inside its loop, or leaves it when it is told to. -/
private theorem workerMoves (h : s.Ending) {receiver : Receiver} {clock : WorkerClock}
    {mtx : Option NetThread} {next : WorkerAt}
    (hsafe : ThreadedReceiver.Safe
      { s with receiver, clock, mNetMtx := mtx, receiverWorker := next })
    (hfinished : s.receiverWorker ≠ .finished) (hnext : next ≠ .finished)
    (hleft : next.left = true → s.handOff.mThreadActive = false) :
    ThreadedReceiver.Ending
      { s with receiver, clock, mNetMtx := mtx, receiverWorker := next } :=
  { h with
    safe := hsafe
    worker := iff_of_false (fun hover => hfinished (h.worker.mp hover)) hnext
    workerLeft := hleft }

/-- **A step of `receiverWorker`.** -/
theorem workerStep (h : s.Ending) {now : ℤ} (hstep : s.WorkerStep now s') : s'.Ending := by
  have hsafe := h.safe.workerStep hstep
  cases hstep with
  | begins hat => exact h.workerMoves hsafe (by simp [hat]) (by simp) (by simp [WorkerAt.left])
  | goesOn hat hactive =>
    exact h.workerMoves hsafe (by simp [hat]) (by simp) (by simp [WorkerAt.left])
  | ends hat hstopped => exact h.workerMoves hsafe (by simp [hat]) (by simp) fun _ => hstopped
  | sleeps hat => exact h.workerMoves hsafe (by simp [hat]) (by simp) (by simp [WorkerAt.left])
  | locks hat hfree => exact h.workerMoves hsafe (by simp [hat]) (by simp) (by simp [WorkerAt.left])
  | waits hat hheld => exact h
  | skips hat hempty =>
    exact h.workerMoves hsafe (by simp [hat]) (by simp) (by simp [WorkerAt.left])
  | starts hat hsome =>
    exact h.workerMoves hsafe (by simp [hat]) (by simp) (by simp [WorkerAt.left])
  | round e rest ids hat round hround =>
    exact h.workerMoves hsafe (by simp [hat]) (by simp) (by simp [WorkerAt.left])
  | walked ids hat =>
    exact h.workerMoves hsafe (by simp [hat]) (by simp) (by simp [WorkerAt.left])
  | pushes frame more rest ids hat =>
    -- a push leaves `mThreadActive` and the other threads alone
    obtain ⟨hstop, hdelivery, hactive, hstopped, -⟩ := s.handOff.receiverWorkerStep_others frame
    have hworking : s.mIsWorkerThreadActive ≠ false := fun hover => by
      rw [h.worker.mp hover] at hat
      exact absurd hat (by simp)
    exact { h with
      safe := hsafe
      worker := iff_of_false hworking (by simp)
      delivery := fun hover => hdelivery.trans (h.delivery hover)
      workerLeft := fun hleft => absurd hleft (by simp [WorkerAt.left])
      deliveryLeft := fun hleft => hactive.trans (h.deliveryLeft (hdelivery.symm.trans hleft))
      told := fun htold => h.told (hactive.symm.trans htold)
      signalled := fun htold =>
        (h.signalled (hactive.symm.trans htold)).imp
          (fun hnone hsome => hnone (hstop.symm.trans hsome)) hstopped.trans
      notifies := fun hends => hstopped.trans (h.notifies (by
        rwa [HandOff.endsSignal, hstop] at hends))
      polls := fun hpolls => hstopped.trans (h.polls hpolls)
      frees := fun hfrees => hactive.trans (h.frees hfrees) }
  | pushed rest ids hat =>
    exact h.workerMoves hsafe (by simp [hat]) (by simp) (by simp [WorkerAt.left])
  | erases id rest hat =>
    exact h.workerMoves hsafe (by simp [hat]) (by simp) (by simp [WorkerAt.left])
  | erased hat => exact h.workerMoves hsafe (by simp [hat]) (by simp) (by simp [WorkerAt.left])
  | unlocks hat => exact h.workerMoves hsafe (by simp [hat]) (by simp) (by simp [WorkerAt.left])
  | clears hat =>
    -- behind the loop, so `mThreadActive` is cleared
    exact { h with
      safe := hsafe
      worker := iff_of_true rfl rfl
      workerLeft := fun _ => h.workerLeft (by rw [hat]; rfl)
      polled := fun _ _ _ => rfl
      sound := fun hmem => ⟨rfl, (h.sound hmem).2⟩ }
  | isOver hat => exact h

/-- **A step of `deliveryWorker`.** -/
theorem deliveryStep (h : s.Ending) {spuriously : Bool} (hstep : s.DeliveryStep spuriously s') :
    s'.Ending := by
  have hsafe := h.safe.deliveryStep hstep
  obtain ⟨-, hstop, hactive, hstopped, -⟩ := s.handOff.deliveryWorkerStep_others spuriously
  cases hstep with
  | works hat =>
    exact { h with
      safe := hsafe
      delivery := fun hover => absurd (h.delivery hover) hat
      workerLeft := fun hleft => hactive.trans (h.workerLeft hleft)
      -- it leaves its loop when it finds `mThreadActive` cleared
      deliveryLeft := fun hleft => hactive.trans (s.handOff.deliveryWorkerStep_left hat hleft)
      told := fun htold => h.told (hactive.symm.trans htold)
      signalled := fun htold =>
        (h.signalled (hactive.symm.trans htold)).imp
          (fun hnone hsome => hnone (hstop.symm.trans hsome)) hstopped.trans
      notifies := fun hends => hstopped.trans (h.notifies (by
        rwa [HandOff.endsSignal, hstop] at hends))
      polls := fun hpolls => hstopped.trans (h.polls hpolls)
      frees := fun hfrees => hactive.trans (h.frees hfrees) }
  | clears hat =>
    exact { h with
      safe := hsafe
      delivery := fun _ => hat
      sound := fun hmem => ⟨(h.sound hmem).1, rfl, (h.sound hmem).2.2⟩ }

/-- A call moves on, and `stopReceiver` neither begins nor comes back. -/
private theorem callMoves (h : s.Ending) {receiver : Receiver} {mtx : Option NetThread}
    {next : CallAt τ} {returned : List (Return τ)}
    (hsafe : ThreadedReceiver.Safe { s with receiver, mNetMtx := mtx, call := next, returned })
    (hreturned : ∀ message, Return.stopReceiver message ∈ returned ↔
      Return.stopReceiver message ∈ s.returned)
    (hstops : s.call.stops = true → next.stops = true)
    (hpolls : next.polls = true → s.call.polls = true)
    (hpolled : ∀ destructor n, next = .pollDelivery destructor n →
      s.mIsWorkerThreadActive = false)
    (hsettled : s.mIsWorkerThreadActive = false → s.mIsDeliveryThreadActive = false →
      s.call.settled = true → next.settled = true)
    (hfrees : next.frees = true → s.handOff.mThreadActive = false) :
    ThreadedReceiver.Ending { s with receiver, mNetMtx := mtx, call := next, returned } :=
  { h with
    safe := hsafe
    told := fun htold => (h.told htold).imp hstops fun ⟨message, hmem⟩ =>
      ⟨message, (hreturned message).mpr hmem⟩
    polls := fun hnext => h.polls (hpolls hnext)
    polled := hpolled
    sound := fun hmem =>
      have hsound := h.sound ((hreturned _).mp hmem)
      ⟨hsound.1, hsound.2.1, hsettled hsound.1 hsound.2.1 hsound.2.2⟩
    frees := hfrees }

/-- `stopReceiver` comes back. -/
private theorem stopReturns (h : s.Ending) {destructor : Bool} {message : StopMessage}
    (hpolls : s.call.polls = true)
    (hsafe : (s.stopReturns destructor message).Safe)
    (hsound : message = .noError →
      s.mIsWorkerThreadActive = false ∧ s.mIsDeliveryThreadActive = false) :
    (s.stopReturns destructor message).Ending := by
  have hinactive : s.handOff.mThreadActive = false :=
    h.safe.handOff.inactive (Or.inr (h.polls hpolls))
  have hnext : ∀ c : CallAt τ, c = (if destructor then .deleteBuckets else .outside) →
      c.polls = false ∧ c.settled = true ∧ ∀ d n, c ≠ .pollDelivery d n := by
    rintro c rfl
    cases destructor <;> simp [CallAt.polls, CallAt.settled]
  obtain ⟨hnotPolls, hsettled, hnotPolled⟩ := hnext _ rfl
  exact { h with
    safe := hsafe
    told := fun _ => Or.inr ⟨message, List.mem_append_right _ (List.mem_singleton_self _)⟩
    polls := fun hnext => absurd (hnotPolls.symm.trans hnext) (by simp)
    polled := fun d n hnext => absurd hnext (hnotPolled d n)
    sound := fun hmem => by
      rcases List.mem_append.mp hmem with hmem | hmem
      · exact ⟨(h.sound hmem).1, (h.sound hmem).2.1, hsettled⟩
      · obtain ⟨hworker, hdelivery⟩ := hsound
          (Return.stopReceiver.inj (List.mem_singleton.mp hmem)).symm
        exact ⟨hworker, hdelivery, hsettled⟩
    frees := fun _ => hinactive }

/-- The signal clears `mThreadActive` first, and its last statement comes after the stop. -/
private theorem signals (h : s.Ending) {destructor : Bool}
    (hsafe : ThreadedReceiver.Safe
      { s with
        handOff := s.handOff.stopReceiverStep
        call := if s.handOff.endsSignal then .pollWorker destructor 1000
          else .signal destructor }) :
    ThreadedReceiver.Ending
      { s with
        handOff := s.handOff.stopReceiverStep
        call := if s.handOff.endsSignal then .pollWorker destructor 1000
          else .signal destructor } := by
  obtain ⟨-, hdelivery, -, -⟩ := s.handOff.stopReceiverStep_others
  obtain ⟨hcleared, hgoing, hends⟩ :=
    s.handOff.stopReceiverStep_told h.safe.handOff.inactive h.notifies
  exact { h with
    safe := hsafe
    delivery := fun hover => hdelivery.trans (h.delivery hover)
    workerLeft := fun _ => hcleared
    deliveryLeft := fun _ => hcleared
    told := fun _ => Or.inl (by simp only []; split <;> rfl)
    signalled := fun _ => hgoing
    notifies := fun hnotifies => hends (Or.inl hnotifies)
    polls := fun hpolls => by
      cases hends' : s.handOff.endsSignal with
      | true => exact hends (Or.inr hends')
      | false => exact absurd hpolls (by simp [hends', CallAt.polls])
    polled := fun d n hpoll => by
      simp only [] at hpoll
      split at hpoll
      · exact absurd hpoll (by simp)
      · exact absurd hpoll (by simp)
    sound := fun hmem => ⟨(h.sound hmem).1, (h.sound hmem).2.1, by simp only []; split <;> rfl⟩
    frees := fun _ => hcleared }

/-- **A step of a call.** -/
theorem callStep (h : s.Ending) (hstep : s.CallStep s') : s'.Ending := by
  have hsafe := h.safe.callStep hstep
  cases hstep with
  | idle hat => exact h
  | reads a hat =>
    apply h.callMoves hsafe (fun _ => Iff.rfl) <;>
      simp_all [CallAt.stops, CallAt.polls, CallAt.settled, CallAt.frees]
  | refuses a active hat hover =>
    apply h.callMoves hsafe <;> simp_all [CallAt.stops, CallAt.polls, CallAt.settled, CallAt.frees]
  | enters a hat hactive hunpacks =>
    apply h.callMoves hsafe (fun _ => Iff.rfl) <;>
      simp_all [CallAt.stops, CallAt.polls, CallAt.settled, CallAt.frees]
  | answers a hat hactive hunpacks =>
    apply h.callMoves hsafe <;> simp_all [CallAt.stops, CallAt.polls, CallAt.settled, CallAt.frees]
  | locks a hat hfree =>
    apply h.callMoves hsafe (fun _ => Iff.rfl) <;>
      simp_all [CallAt.stops, CallAt.polls, CallAt.settled, CallAt.frees]
  | waits a hat hheld => exact h
  | unpacks a hat out hout =>
    apply h.callMoves hsafe (fun _ => Iff.rfl) <;>
      simp_all [CallAt.stops, CallAt.polls, CallAt.settled, CallAt.frees]
  | unlocks a m hat =>
    apply h.callMoves hsafe <;> simp_all [CallAt.stops, CallAt.polls, CallAt.settled, CallAt.frees]
  | signals d hat => exact h.signals hsafe
  | workerActive d n hat hactive =>
    apply h.callMoves hsafe (fun _ => Iff.rfl) <;>
      simp_all [CallAt.stops, CallAt.polls, CallAt.settled, CallAt.frees]
  | workerOver d n hat hover =>
    apply h.callMoves hsafe (fun _ => Iff.rfl) <;>
      simp_all [CallAt.stops, CallAt.polls, CallAt.settled, CallAt.frees]
  | deliveryActive d n hat hactive =>
    apply h.callMoves hsafe (fun _ => Iff.rfl) <;>
      simp_all [CallAt.stops, CallAt.polls, CallAt.settled, CallAt.frees]
  -- both flags were seen down, the worker's in the poll before
  | stopped d n hat hover =>
    exact h.stopReturns (by rw [hat]; rfl) hsafe fun _ => ⟨h.polled d n hat, hover⟩
  | givesUp d n hat hlast =>
    exact h.stopReturns (by rw [hat]; rfl) hsafe fun hmessage => absurd hmessage (by simp)
  | pollsAgain d n hat hmore =>
    apply h.callMoves hsafe (fun _ => Iff.rfl) <;>
      simp_all [CallAt.stops, CallAt.polls, CallAt.settled, CallAt.frees]
  | asks hat hactive =>
    apply h.callMoves hsafe (fun _ => Iff.rfl) <;>
      simp_all [CallAt.stops, CallAt.polls, CallAt.settled, CallAt.frees]
  | skips hat hstopped =>
    apply h.callMoves hsafe (fun _ => Iff.rfl) <;>
      simp_all [CallAt.stops, CallAt.polls, CallAt.settled, CallAt.frees]
  | deletes hat =>
    -- `stopReceiver` has come back, whatever it said
    have hinactive := h.frees (by rw [hat]; rfl)
    apply h.callMoves hsafe (fun _ => Iff.rfl) <;>
      simp_all [CallAt.stops, CallAt.polls, CallAt.settled, CallAt.frees]
  | isOver hat => exact h

/-- **Step lemma.** -/
theorem step (h : s.Ending) (action : ThreadedAction τ) : (s.step action).Ending := by
  have hsafe := h.safe.step action
  have hstep := s.step_cases action
  generalize s.step action = s' at hstep hsafe ⊢
  cases hstep with
  | begins action hcall c hc hat =>
    cases hc <;> apply h.callMoves hsafe (fun _ => Iff.rfl) <;>
      simp_all [CallAt.stops, CallAt.polls, CallAt.settled, CallAt.frees]
  | busy action hcall hat => exact h
  | call s' hstep => exact h.callStep hstep
  | receiverWorker now s' hstep => exact h.workerStep hstep
  | deliveryWorker spuriously s' hstep => exact h.deliveryStep hstep

end ThreadedReceiver.Ending

/-- **Run lemma.** -/
theorem ThreadedReceiver.ending_run (B H : UInt32) (schedule : List (ThreadedAction τ)) :
    ((threadedMachine τ).run (.new τ B H) schedule).Ending :=
  (threadedMachine τ).run_invariant (I := ThreadedReceiver.Ending) (C := fun _ _ => True)
    (ThreadedReceiver.ending_new B H) (fun _ a _ h => h.step a) fun _ _ _ => trivial

/-! ## §2 After `stopReceiver` -/

section AfterStop

variable {B H : UInt32} {schedule : List (ThreadedAction τ)}

/-- What moves no more after `stopReceiver` has said `noError`, from the state `s` to the state `x`:
    both threads have ended, no superframe is pushed and none reaches `receiveCallback`, the
    receiver and the queue stay as they are, fragments are refused, and every further `stopReceiver`
    says `noError` again. -/
structure ThreadedReceiver.Rests (s x : ThreadedReceiver τ) : Prop where
  receiverWorker : x.receiverWorker = .finished
  deliveryWorker : x.handOff.deliveryWorker = .finished
  receiver : x.receiver = s.receiver
  queue : x.handOff.mSuperFrameQueue = s.handOff.mSuperFrameQueue
  pushed : x.handOff.pushed = s.handOff.pushed
  delivered : x.handOff.delivered = s.handOff.delivered
  returned : ∃ more, x.returned = s.returned ++ more ∧ ∀ r ∈ more,
    r = .stopReceiver .noError ∨ ∃ a, r = .receiveFragment a .receiverNotRunning

/-- The invariant after `noError`. -/
structure ThreadedReceiver.Stopped (s x : ThreadedReceiver τ) : Prop
    extends ThreadedReceiver.Rests s x where
  ending : x.Ending
  told : Return.stopReceiver .noError ∈ x.returned

/-- A call comes back as it must. -/
private theorem ThreadedReceiver.Rests.returns {s x : ThreadedReceiver τ} (h : s.Rests x)
    {r : Return τ}
    (hr : r = .stopReceiver .noError ∨ ∃ a, r = .receiveFragment a .receiverNotRunning) :
    ∃ more, x.returned ++ [r] = s.returned ++ more ∧ ∀ r ∈ more,
      r = .stopReceiver .noError ∨ ∃ a, r = .receiveFragment a .receiverNotRunning := by
  obtain ⟨more, hmore, hall⟩ := h.returned
  refine ⟨more ++ [r], by rw [hmore, List.append_assoc], fun r' hr' => ?_⟩
  rcases List.mem_append.mp hr' with hold | hnew
  · exact hall r' hold
  · rw [List.mem_singleton.mp hnew]
    exact hr

/-- **After the stop a step changes nothing.** -/
private theorem ThreadedReceiver.Stopped.step {s x : ThreadedReceiver τ} (h : s.Stopped x)
    (action : ThreadedAction τ) : s.Stopped (x.step action) := by
  have hending := h.ending.step action
  obtain ⟨hworkerOver, hdeliveryOver, hsettled⟩ := h.ending.sound h.told
  have hworker := h.ending.worker.mp hworkerOver
  have hdelivery := h.ending.delivery hdeliveryOver
  have hstep := x.step_cases action
  generalize x.step action = x' at hstep hending ⊢
  cases hstep with
  | begins action hcall c hc hat => exact { h with ending := hending }
  | busy action hcall hat => exact h
  | receiverWorker now x' hstep =>
    -- the thread is at its end
    cases hstep with
    | isOver hat => exact h
    | _ => simp_all
  | deliveryWorker spuriously x' hstep =>
    cases hstep with
    -- it has left its loop, so nothing is taken from the queue
    | works hat => exact absurd hdelivery hat
    | clears hat => exact { h with ending := hending }
  | call x' hstep =>
    cases hstep with
    | idle hat => exact h
    | reads a hat => exact { h with ending := hending }
    | refuses a active hat hover =>
      exact { h with
        ending := hending
        told := List.mem_append_left _ h.told
        returned := h.toRests.returns (Or.inr ⟨a, rfl⟩) }
    | signals d hat =>
      obtain ⟨-, hworks, hpushed, hdelivered⟩ := x.handOff.stopReceiverStep_others
      exact { h with
        ending := hending
        deliveryWorker := hworks.trans hdelivery
        queue := x.handOff.stopReceiverStep_queue.trans h.queue
        pushed := hpushed.trans h.pushed
        delivered := hdelivered.trans h.delivered }
    | workerOver d n hat hover => exact { h with ending := hending }
    | stopped d n hat hover =>
      exact { h with
        ending := hending
        told := List.mem_append_left _ h.told
        returned := h.toRests.returns (Or.inl rfl) }
    | asks hat hactive => exact { h with ending := hending }
    | skips hat hstopped => exact { h with ending := hending }
    | deletes hat => exact { h with ending := hending }
    | isOver hat => exact h
    | _ => simp_all [CallAt.settled]

/-- **After `noError` both threads have ended and nothing moves**, whatever is called and however
    the schedule goes on. -/
theorem stopped_for_good (later : List (ThreadedAction τ))
    (htold : Return.stopReceiver .noError ∈
      ((threadedMachine τ).run (.new τ B H) schedule).returned) :
    ThreadedReceiver.Rests ((threadedMachine τ).run (.new τ B H) schedule)
      ((threadedMachine τ).run (.new τ B H) (schedule ++ later)) := by
  rw [Machine.run_append]
  generalize hs : (threadedMachine τ).run (.new τ B H) schedule = s at htold ⊢
  have hending : s.Ending := hs ▸ ThreadedReceiver.ending_run B H schedule
  obtain ⟨hworkerOver, hdeliveryOver, -⟩ := hending.sound htold
  have hstart : s.Stopped s :=
    { receiverWorker := hending.worker.mp hworkerOver
      deliveryWorker := hending.delivery hdeliveryOver
      receiver := rfl
      queue := rfl
      pushed := rfl
      delivered := rfl
      returned := ⟨[], by simp⟩
      ending := hending
      told := htold }
  have hstopped : s.Stopped ((threadedMachine τ).run s later) :=
    (threadedMachine τ).run_invariant (I := s.Stopped) (C := fun _ _ => True) hstart
      (fun _ a _ h => h.step a) fun _ _ _ => trivial
  exact hstopped.toRests

/-- A receiver that is destroyed at once. -/
def destroySchedule (τ : Type) : List (ThreadedAction τ) :=
  [.destroy] ++ List.replicate 6 .call ++ List.replicate 3 (.receiverWorker 0) ++
    List.replicate 2 (.deliveryWorker false) ++ List.replicate 3 .call

theorem destroySchedule_call (B H : UInt32) :
    ((threadedMachine τ).run (.new τ B H) (destroySchedule τ)).call = .destroyed ∧
      ((threadedMachine τ).run (.new τ B H) (destroySchedule τ)).returned =
        [.stopReceiver .noError] := by
  simp [destroySchedule, List.replicate, threadedMachine, ThreadedReceiver.step,
    ThreadedReceiver.new, ThreadedReceiver.begins, ThreadedReceiver.callStep,
    ThreadedReceiver.receiverWorkerStep, ThreadedReceiver.deliveryWorkerStep,
    HandOff.stopReceiverStep, HandOff.endsSignal, HandOff.deliveryWorkerStep, HandOff.notifyOne,
    HandOff.waits, ThreadedReceiver.stopReturns]

/-- The destructor has stopped both threads and freed the buckets, and every thread gets its turns
    again. -/
theorem stopped_for_good_destroyed :
    ThreadedReceiver.Rests ((threadedMachine Unit).run (.new Unit 100 50) (destroySchedule Unit))
      ((threadedMachine Unit).run (.new Unit 100 50)
        (destroySchedule Unit ++ destroySchedule Unit)) :=
  stopped_for_good (destroySchedule Unit) (by
    rw [(destroySchedule_call 100 50).2]
    exact List.mem_singleton_self _)

/-- **The buckets outlive the threads.** When the destructor frees the buckets, both threads have
    ended, or a `stopReceiver` has given up on them; and then, in the first case, no step of any
    thread does anything any more. -/
theorem freed_after_the_threads (later : List (ThreadedAction τ))
    (hfrees : ((threadedMachine τ).run (.new τ B H) schedule).call.frees = true)
    (hgaveUp : Return.stopReceiver .failedStoppingReceiver ∉
      ((threadedMachine τ).run (.new τ B H) schedule).returned) :
    let s := (threadedMachine τ).run (.new τ B H) schedule
    s.receiverWorker = .finished ∧ s.handOff.deliveryWorker = .finished ∧
      (s.call = .destroyed → (threadedMachine τ).run (.new τ B H) (schedule ++ later) = s) := by
  intro s
  have h : s.Ending := ThreadedReceiver.ending_run B H schedule
  -- the threads were told to stop, and the call that told them has come back
  have hreturned : Return.stopReceiver .noError ∈ s.returned := by
    rcases h.told (h.frees hfrees) with hstops | ⟨message, hmem⟩
    · have hfrees : s.call.frees = true := hfrees
      cases hat : s.call <;> simp_all [CallAt.frees, CallAt.stops]
    · cases message with
      | noError => exact hmem
      | failedStoppingReceiver => exact absurd hmem hgaveUp
  obtain ⟨hworkerOver, hdeliveryOver, -⟩ := h.sound hreturned
  have hworker := h.worker.mp hworkerOver
  have hdelivery := h.delivery hdeliveryOver
  refine ⟨hworker, hdelivery, fun hdestroyed => ?_⟩
  have hstep : ∀ action, s.step action = s := by
    intro action
    have hstep := s.step_cases action
    generalize s.step action = s' at hstep ⊢
    cases hstep with
    | begins action hcall c hc hat => exact absurd (hat.symm.trans hdestroyed) (by simp)
    | busy => rfl
    | call s' hstep => cases hstep <;> simp_all
    | receiverWorker now s' hstep => cases hstep <;> simp_all
    | deliveryWorker spuriously s' hstep =>
      cases hstep with
      | works hat => exact absurd hdelivery hat
      | clears hat =>
        rw [← hdeliveryOver]
  have hsame : (threadedMachine τ).run s later = s :=
    (threadedMachine τ).run_invariant (I := fun x => x = s) (C := fun _ _ => True) rfl
      (fun x a _ hx => by rw [hx]; exact hstep a) fun _ _ _ => trivial
  rw [Machine.run_append]
  exact hsame

/-- After the destructor not even another turn of every thread does anything. -/
theorem freed_after_the_threads_at_once :
    (threadedMachine Unit).run (.new Unit 100 50)
        (destroySchedule Unit ++ destroySchedule Unit) =
      (threadedMachine Unit).run (.new Unit 100 50) (destroySchedule Unit) := by
  obtain ⟨hdestroyed, hreturned⟩ := destroySchedule_call (τ := Unit) 100 50
  refine (freed_after_the_threads (destroySchedule Unit) ?_ ?_).2.2 hdestroyed
  · rw [hdestroyed]
    rfl
  · rw [hreturned]
    simp

end AfterStop

/-! ## §3 While the threads stop -/

/-- How many superframes `deliveryWorker` can still pass on when `mThreadActive` is cleared. -/
def DeliveryWorkerAt.inReach : DeliveryWorkerAt → ℕ
  | .loopTest | .finished => 0
  | _ => 1

/-- How many passes `receiverWorker` can still begin. -/
def WorkerAt.inReach : WorkerAt → ℕ
  | .readClock | .lockNet | .emptyTest => 1
  | _ => 0

/-- After the stop `deliveryWorker` goes once through its loop at most. -/
theorem HandOff.deliveryWorkerStep_inReach (s : HandOff) (spuriously : Bool)
    (hcleared : s.mThreadActive = false) :
    ∃ frames, (s.deliveryWorkerStep spuriously).delivered = s.delivered ++ frames ∧
      frames.length + (s.deliveryWorkerStep spuriously).deliveryWorker.inReach ≤
        s.deliveryWorker.inReach := by
  unfold deliveryWorkerStep
  cases hat : s.deliveryWorker with
  | loopTest => exact ⟨[], by simp [hcleared, DeliveryWorkerAt.inReach]⟩
  | lock =>
    simp only []
    split
    · exact ⟨[], by simp [DeliveryWorkerAt.inReach]⟩
    · exact ⟨[], by simp [hat]⟩
  | waitTest =>
    simp only []
    split
    · exact ⟨[], by simp [DeliveryWorkerAt.inReach]⟩
    · exact ⟨[], by simp [DeliveryWorkerAt.inReach]⟩
  | waiting =>
    simp only []
    split
    · exact ⟨[], by simp [DeliveryWorkerAt.inReach]⟩
    · exact ⟨[], by simp [hat]⟩
  | popFront => exact ⟨[], by simp [DeliveryWorkerAt.inReach]⟩
  | clearReady x => exact ⟨[], by simp [DeliveryWorkerAt.inReach]⟩
  | unlock x => exact ⟨[], by simp [DeliveryWorkerAt.inReach]⟩
  | receiveCallback x =>
    refine ⟨x.toList, rfl, ?_⟩
    cases x <;> simp [DeliveryWorkerAt.inReach]
  | finished => exact ⟨[], by simp [hat]⟩

/-- What got through since the state `s`, in which `mThreadActive` was cleared. -/
structure ThreadedReceiver.Trickles (s : ThreadedReceiver τ) (es : List (Event τ))
    (x : ThreadedReceiver τ) : Prop where
  cleared : x.handOff.mThreadActive = false
  passes : (passTimes es).length + x.receiverWorker.inReach ≤ s.receiverWorker.inReach
  frames : ∃ frames, x.handOff.delivered = s.handOff.delivered ++ frames ∧
    frames.length + x.handOff.deliveryWorker.inReach ≤ s.handOff.deliveryWorker.inReach

namespace ThreadedReceiver.Trickles

variable {s x x' : ThreadedReceiver τ} {es : List (Event τ)}

/-- A step with which nothing gets through. -/
private theorem silent (h : s.Trickles es x) {action : ThreadedAction τ}
    (hanswer : passTimes (x.answer action) = []) (hcleared : x'.handOff.mThreadActive = false)
    (hworker : x'.receiverWorker.inReach ≤ x.receiverWorker.inReach)
    (hdelivered : x'.handOff.delivered = x.handOff.delivered)
    (hdelivery : x'.handOff.deliveryWorker = x.handOff.deliveryWorker) :
    s.Trickles (es ++ x.answer action) x' where
  cleared := hcleared
  passes := by
    rw [passTimes_append, hanswer, List.append_nil]
    exact le_trans (Nat.add_le_add_left hworker _) h.passes
  frames := by
    rw [hdelivered, hdelivery]
    exact h.frames

/-- **A step of `receiverWorker`.** -/
private theorem workerStep (h : s.Trickles es x) {now : ℤ} (hstep : x.WorkerStep now x') :
    s.Trickles (es ++ x.answer (.receiverWorker now)) x' := by
  have hcleared := h.cleared
  -- a pass takes its place
  have hpass : ∀ {next : WorkerAt}, x.receiverWorker = .emptyTest → next.inReach = 0 →
      s.Trickles (es ++ x.answer (.receiverWorker now)) { x with receiverWorker := next } := by
    intro next hat hnext
    have hpasses := h.passes
    rw [hat] at hpasses
    refine { h with passes := ?_ }
    rw [answer_emptyTest hat, passTimes_append, List.length_append]
    show (passTimes es).length + 1 + next.inReach ≤ _
    rw [hnext]
    exact hpasses
  cases hstep with
  | skips hat hempty => exact hpass hat rfl
  | starts hat hsome => exact hpass hat rfl
  | goesOn hat hactive => exact absurd (hcleared.symm.trans hactive) (by simp)
  | pushes frame more rest ids hat =>
    obtain ⟨-, hdelivery, hactive, -, hdelivered⟩ := x.handOff.receiverWorkerStep_others frame
    exact h.silent (by simp [passTimes, answer, hat]) (hactive.trans hcleared)
      (by simp [hat, WorkerAt.inReach]) hdelivered hdelivery
  | waits hat hheld => exact h.silent (by simp [passTimes, answer, hat]) hcleared le_rfl rfl rfl
  | isOver hat => exact h.silent (by simp [passTimes, answer, hat]) hcleared le_rfl rfl rfl
  | _ hat =>
    exact h.silent (by simp [passTimes, answer, *]) hcleared (by simp [*, WorkerAt.inReach]) rfl rfl

/-- **A step of a call.** -/
private theorem callStep (h : s.Trickles es x) (hstep : x.CallStep x') :
    s.Trickles (es ++ x.answer .call) x' := by
  have hcleared := h.cleared
  have hanswer := x.answer_call
  cases hstep with
  | signals d hat =>
    obtain ⟨-, hdelivery, -, hdelivered⟩ := x.handOff.stopReceiverStep_others
    exact h.silent hanswer (x.handOff.stopReceiverStep_cleared hcleared) le_rfl hdelivered hdelivery
  | _ => exact h.silent hanswer hcleared le_rfl rfl rfl

/-- **Step lemma.** -/
theorem step (h : s.Trickles es x) (action : ThreadedAction τ) :
    s.Trickles (es ++ x.answer action) (x.step action) := by
  have hcleared := h.cleared
  have hstep := x.step_cases action
  generalize x.step action = x' at hstep ⊢
  cases hstep with
  | begins action hcall c hc hat =>
    exact h.silent (by rw [x.answer_of_isCall hcall]; rfl) hcleared le_rfl rfl rfl
  | busy action hcall hat =>
    exact h.silent (by rw [x.answer_of_isCall hcall]; rfl) hcleared le_rfl rfl rfl
  | call x' hstep => exact h.callStep hstep
  | receiverWorker now x' hstep => exact h.workerStep hstep
  | deliveryWorker spuriously x' hstep =>
    cases hstep with
    | clears hat => exact h.silent rfl hcleared le_rfl rfl rfl
    | works hat =>
      obtain ⟨-, -, hactive, -, -⟩ := x.handOff.deliveryWorkerStep_others spuriously
      obtain ⟨more, hmore, hreach⟩ :=
        x.handOff.deliveryWorkerStep_inReach spuriously hcleared
      obtain ⟨frames, hframes, hbefore⟩ := h.frames
      refine ⟨hactive.trans hcleared, by simpa [answer] using h.passes, frames ++ more, ?_, ?_⟩
      · show (x.handOff.deliveryWorkerStep spuriously).delivered = _
        rw [hmore, hframes, List.append_assoc]
      · rw [List.length_append]
        show frames.length + more.length +
          (x.handOff.deliveryWorkerStep spuriously).deliveryWorker.inReach ≤ _
        omega

end ThreadedReceiver.Trickles

/-- **What still gets through after `mThreadActive` is cleared**, whatever is called and however the
    schedule goes on: one superframe at most reaches `receiveCallback`, and one pass at most is
    begun. What is left in the queue stays there. -/
theorem stop_takes_effect {B H : UInt32} {schedule : List (ThreadedAction τ)}
    (later : List (ThreadedAction τ))
    (hcleared : ((threadedMachine τ).run (.new τ B H) schedule).handOff.mThreadActive = false) :
    ∃ frames es, frames.length ≤ 1 ∧ (passTimes es).length ≤ 1 ∧
      ((threadedMachine τ).run (.new τ B H) (schedule ++ later)).handOff.delivered =
        ((threadedMachine τ).run (.new τ B H) schedule).handOff.delivered ++ frames ∧
      sequential B H (schedule ++ later) = sequential B H schedule ++ es := by
  unfold sequential
  rw [Machine.run_append, Machine.answers_append]
  generalize (threadedMachine τ).run (.new τ B H) schedule = s at hcleared ⊢
  have hstart : s.Trickles [] s :=
    { cleared := hcleared
      passes := by simp [passTimes]
      frames := ⟨[], by simp⟩ }
  have hrun : s.Trickles ((threadedMachine τ).answers ThreadedReceiver.answer s later)
      ((threadedMachine τ).run s later) :=
    Machine.Simulation.run (R := s.Trickles) ⟨hstart, fun _ _ i h => h.step i⟩ later
  obtain ⟨frames, hdelivered, hreach⟩ := hrun.frames
  have hworker : s.receiverWorker.inReach ≤ 1 := by
    cases s.receiverWorker <;> simp [WorkerAt.inReach]
  have hdelivery : s.handOff.deliveryWorker.inReach ≤ 1 := by
    cases s.handOff.deliveryWorker <;> simp [DeliveryWorkerAt.inReach]
  have hpasses := hrun.passes
  exact ⟨frames, _, by omega, by omega, hdelivered, rfl⟩

/-- A receiver that is stopped at once: the signal, the ends of both threads, and the polls. -/
def stopSchedule (τ : Type) : List (ThreadedAction τ) :=
  [.stopReceiver] ++ List.replicate 5 .call ++ List.replicate 3 (.receiverWorker 0) ++
    List.replicate 2 (.deliveryWorker false) ++ List.replicate 2 .call

/-- A stop that has just begun, before it goes on to its end. -/
theorem stop_takes_effect_begun :
    ∃ frames es, frames.length ≤ 1 ∧ (passTimes es).length ≤ 1 ∧
      ((threadedMachine Unit).run (.new Unit 100 50)
        ([.stopReceiver, .call] ++ stopSchedule Unit)).handOff.delivered = [] ++ frames ∧
      sequential 100 50 ([.stopReceiver, .call] ++ stopSchedule Unit) =
        sequential 100 50 ([.stopReceiver, .call] : List (ThreadedAction Unit)) ++ es :=
  stop_takes_effect (stopSchedule Unit) rfl

end ElasticFrame.Threads
