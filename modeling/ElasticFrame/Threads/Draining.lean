import ElasticFrame.Receiver.Drained
import ElasticFrame.Threads.Pace
import ElasticFrame.Threads.Termination

/-!
# Everything Gets Through

A receiver that is left alone while it runs: no call is made and nobody stops it. When every thread
has its turn again and again, and the clock has passed all deadlines, everything that is in a bucket
comes to `receiveCallback`. It does so in three stages:

- `rounding`: `receiverWorker` ends the pass that it is in
- `passing`: it makes a pass behind all deadlines, and pushes what it selects
- `emptying`: `deliveryWorker` empties the queue, while `receiverWorker` goes on with its rounds

In each of them some thread can always go on (`Machine.Progress`). Nothing is said about a
condition variable that wakes up spuriously for ever: it could keep `receiverWorker` from the mutex.
-/

namespace ElasticFrame.Threads

open ElasticFrame.Lib

variable {τ : Type}

/-! ## §1 The flag of the queue -/

/-- While nobody stops the receiver, `mSuperFrameReady` says that the queue is not empty. -/
structure HandOff.Flagged (s : HandOff) : Prop where
  ready : s.mSuperFrameReady = true →
    s.mSuperFrameQueue ≠ [] ∨ ∃ x, s.deliveryWorker = .clearReady x
  pops : s.deliveryWorker = .popFront → s.mSuperFrameQueue ≠ []
  pushed : s.receiverWorker = .setReady → s.mSuperFrameQueue ≠ []

namespace HandOff.Flagged

variable {s : HandOff}

/-- A step of a push. -/
theorem receiverWorkerStep (h : s.Flagged) (frame : SuperFrame) :
    (s.receiverWorkerStep frame).Flagged := by
  unfold HandOff.receiverWorkerStep
  cases hat : s.receiverWorker with
  | outside =>
    simp only []
    split
    · exact ⟨h.ready, h.pops, fun hset => absurd hset (by simp)⟩
    · exact h
  | pushBack x => exact ⟨fun _ => Or.inl (by simp), fun _ => by simp, fun _ => by simp⟩
  | setReady =>
    exact ⟨fun _ => Or.inl (h.pushed hat), h.pops, fun hset => absurd hset (by simp)⟩
  | unlock => exact ⟨h.ready, h.pops, fun hset => absurd hset (by simp)⟩
  | notifyOne => exact ⟨h.ready, h.pops, fun hset => absurd hset (by simp)⟩

/-- A step of `deliveryWorker`. -/
theorem deliveryWorkerStep (h : s.Flagged) (hsafe : s.Safe) (spuriously : Bool) :
    (s.deliveryWorkerStep spuriously).Flagged := by
  -- a step that leaves the flag and the queue alone and is not behind a pop
  have hmoves : ∀ (s' : HandOff), s'.mSuperFrameReady = s.mSuperFrameReady →
      s'.mSuperFrameQueue = s.mSuperFrameQueue → s'.receiverWorker = s.receiverWorker →
      (∀ x, s.deliveryWorker ≠ .clearReady x) → s'.deliveryWorker ≠ .popFront → s'.Flagged := by
    intro s' hready hqueue hpush hat hnext
    refine ⟨fun hflag => Or.inl ?_, fun hpops => absurd hpops hnext, ?_⟩
    · rw [hready] at hflag
      rw [hqueue]
      exact (h.ready hflag).resolve_right fun ⟨x, hx⟩ => hat x hx
    · rw [hqueue, hpush]
      exact h.pushed
  unfold HandOff.deliveryWorkerStep
  cases hat : s.deliveryWorker with
  | loopTest =>
    refine hmoves _ rfl rfl rfl (by simp [hat]) ?_
    show (if s.mThreadActive then DeliveryWorkerAt.lock else .finished) ≠ .popFront
    split <;> simp
  | lock =>
    simp only []
    split
    · exact hmoves _ rfl rfl rfl (by simp [hat]) (by simp)
    · exact h
  | waitTest =>
    simp only []
    split
    case isTrue hready =>
      -- the flag is up, so there is something to pop
      have hsome := (h.ready hready).resolve_right (by simp [hat])
      exact ⟨fun _ => Or.inl hsome, fun _ => hsome, h.pushed⟩
    case isFalse => exact hmoves _ rfl rfl rfl (by simp [hat]) (by simp)
  | waiting =>
    simp only []
    split
    · exact hmoves _ rfl rfl rfl (by simp [hat]) (by simp)
    · exact h
  | popFront =>
    refine ⟨fun _ => Or.inr ⟨_, rfl⟩, fun hpops => absurd hpops (by simp), fun hset => ?_⟩
    -- `receiverWorker` is not inside its section now
    have hset : s.receiverWorker = .setReady := hset
    have hworker := hsafe.workerMtx.mpr (by rw [hset]; rfl)
    have hdelivery := hsafe.deliveryMtx.mpr (by rw [hat]; rfl)
    rw [hworker] at hdelivery
    exact absurd hdelivery (by simp)
  | clearReady x =>
    refine ⟨fun hflag => Or.inl ?_, fun hpops => absurd hpops (by simp), h.pushed⟩
    intro hempty
    have hempty : s.mSuperFrameQueue = [] := hempty
    exact absurd hflag (by simp [hempty])
  | unlock x => exact hmoves _ rfl rfl rfl (by simp [hat]) (by simp)
  | receiveCallback x => exact hmoves _ rfl rfl rfl (by simp [hat]) (by simp)
  | finished => exact h

end HandOff.Flagged

/-- Every step of the signal to stop finds `mThreadActive` cleared, or clears it. -/
theorem HandOff.stopReceiverStep_inactive {s : HandOff} (hsafe : s.Safe) :
    s.stopReceiverStep.mThreadActive = false := by
  cases hat : s.stopReceiver with
  | outside => simp [stopReceiverStep, hat]
  | _ => exact s.stopReceiverStep_cleared (hsafe.inactive (Or.inl (by simp [hat])))

/-- The flag means that while the receiver runs. -/
theorem ThreadedReceiver.flagged_step {s : ThreadedReceiver τ} (hsafe : s.Safe)
    (h : s.handOff.mThreadActive = true → s.handOff.Flagged) (action : ThreadedAction τ) :
    (s.step action).handOff.mThreadActive = true → (s.step action).handOff.Flagged := by
  have hstep := s.step_cases action
  generalize s.step action = s' at hstep ⊢
  cases hstep with
  | begins => exact h
  | busy => exact h
  | call s' hstep =>
    cases hstep with
    | signals d hat =>
      intro hactive
      have hinactive := HandOff.stopReceiverStep_inactive hsafe.handOff
      exact absurd (hinactive.symm.trans hactive) (by simp)
    | _ => exact h
  | receiverWorker now s' hstep =>
    cases hstep with
    | pushes frame more rest ids hat =>
      intro hactive
      have hsame := (s.handOff.receiverWorkerStep_others frame).2.2.1
      exact (h (hsame.symm.trans hactive)).receiverWorkerStep frame
    | _ => exact h
  | deliveryWorker spuriously s' hstep =>
    cases hstep with
    | works hat =>
      intro hactive
      have hsame := (s.handOff.deliveryWorkerStep_others spuriously).2.2.1
      exact (h (hsame.symm.trans hactive)).deliveryWorkerStep hsafe.handOff spuriously
    | clears hat => exact h

/-- **Run lemma.** -/
theorem ThreadedReceiver.flagged_run (B H : UInt32) (schedule : List (ThreadedAction τ)) :
    ((threadedMachine τ).run (.new τ B H) schedule).handOff.mThreadActive = true →
      ((threadedMachine τ).run (.new τ B H) schedule).handOff.Flagged := by
  have hrun := (threadedMachine τ).run_invariant
    (I := fun s => s.Safe ∧ (s.handOff.mThreadActive = true → s.handOff.Flagged))
    (C := fun _ _ => True) (s := .new τ B H) (w := schedule)
    ⟨ThreadedReceiver.safe_new B H, fun _ => ⟨nofun, nofun, nofun⟩⟩
    (fun s action _ hI => ⟨hI.1.step action, ThreadedReceiver.flagged_step hI.1 hI.2 action⟩)
    fun _ _ _ => trivial
  exact hrun.2

/-! ## §2 How much there is to do -/

/-- The steps that `deliveryWorker` takes before it waits for good, when it pops one superframe or
    none. -/
def DeliveryWorkerAt.toWait (signalled : Bool) : DeliveryWorkerAt → ℕ
  | .clearReady _ => 7
  | .unlock _ => 6
  | .receiveCallback _ => 5
  | .loopTest => 4
  | .lock => 3
  | .waitTest => 2
  | .popFront => 1
  | .waiting => if signalled then 3 else 0
  | .finished => 0

/-- A signal wakes it up once. -/
theorem DeliveryWorkerAt.toWait_signalled (d : DeliveryWorkerAt) (signalled signalled' : Bool) :
    d.toWait signalled ≤ d.toWait signalled' + 3 := by
  cases d with
  | waiting =>
    simp only [toWait]
    split <;> split <;> omega
  | _ => exact Nat.le_add_right _ _

/-- The steps that `deliveryWorker` takes before it waits for good, when nothing more is pushed. -/
def HandOff.backlog (s : HandOff) : ℕ :=
  7 * s.mSuperFrameQueue.length + s.deliveryWorker.toWait s.signalled

/-- A step of a push adds less than eight steps. -/
theorem HandOff.receiverWorkerStep_backlog (s : HandOff) (frame : SuperFrame) :
    (s.receiverWorkerStep frame).backlog ≤ s.backlog + 7 := by
  unfold receiverWorkerStep backlog
  cases s.receiverWorker with
  | outside =>
    simp only []
    split
    · exact Nat.le_add_right _ _
    · exact Nat.le_add_right _ _
  | pushBack x =>
    simp only [List.length_append, List.length_singleton]
    omega
  | setReady => exact Nat.le_add_right _ _
  | unlock => exact Nat.le_add_right _ _
  | notifyOne =>
    have hwakes := s.deliveryWorker.toWait_signalled (s.signalled || s.waits) s.signalled
    simp only [notifyOne]
    omega

/-- **A step of `deliveryWorker` is one step less**, or it waits for the mutex or for a signal. -/
theorem HandOff.deliveryWorkerStep_backlog {s : HandOff} (hactive : s.mThreadActive = true)
    (hflagged : s.Flagged) (hat : s.deliveryWorker ≠ .finished) :
    (s.deliveryWorkerStep false = s ∧ ((s.deliveryWorker = .lock ∧ s.mSuperFrameMtx ≠ none) ∨
        (s.deliveryWorker = .waiting ∧ (s.mSuperFrameMtx ≠ none ∨ s.signalled = false)))) ∨
      (s.deliveryWorkerStep false).backlog < s.backlog := by
  unfold deliveryWorkerStep backlog
  cases hworker : s.deliveryWorker with
  | loopTest => simp [hactive, DeliveryWorkerAt.toWait]
  | lock =>
    simp only []
    split
    case isTrue => simp [DeliveryWorkerAt.toWait]
    case isFalse hheld => simp [hheld]
  | waitTest =>
    simp only []
    split
    · simp [DeliveryWorkerAt.toWait]
    · simp [DeliveryWorkerAt.toWait]
  | waiting =>
    simp only []
    split
    case isTrue hwakes =>
      have hsignalled : s.signalled = true := by simpa using hwakes.1
      simp [hsignalled, DeliveryWorkerAt.toWait]
    case isFalse hblocked =>
      left
      refine ⟨rfl, Or.inr ⟨trivial, ?_⟩⟩
      by_contra hfree
      simp only [not_or, not_not, Bool.not_eq_false] at hfree
      exact hblocked ⟨Or.inl hfree.2, hfree.1⟩
  | popFront =>
    -- there is something to pop
    obtain ⟨x, more, hqueue⟩ := List.exists_cons_of_ne_nil (hflagged.pops hworker)
    right
    simp only [hqueue, List.tail_cons, List.length_cons, DeliveryWorkerAt.toWait]
    omega
  | clearReady x => simp [DeliveryWorkerAt.toWait]
  | unlock x => simp [DeliveryWorkerAt.toWait]
  | receiveCallback x => simp [DeliveryWorkerAt.toWait]
  | finished => exact absurd hworker hat

/-- `receiverWorker` is inside a pass. -/
def WorkerAt.inPass : WorkerAt → Bool
  | .walk _ _ | .push _ _ _ | .erase _ => true
  | _ => false

/-- `receiverWorker` is between two rounds. -/
def WorkerAt.between : WorkerAt → Bool
  | .begin | .loopTest | .unlockNet => true
  | _ => false

/-- The steps that `receiverWorker` takes to the end of its pass, or of the next one when it is
    between two. -/
def ThreadedReceiver.toPass (s : ThreadedReceiver τ) : ℕ :=
  match s.receiverWorker with
  | .begin | .unlockNet => 10 + 14 * s.receiver.mBucketMap.size
  | .loopTest => 9 + 14 * s.receiver.mBucketMap.size
  | _ => s.workerAhead

/-- **The measure**, while passes are made: a step of `receiverWorker` weighs more than what it may
    add to the queue. -/
def ThreadedReceiver.toDrain (s : ThreadedReceiver τ) : ℕ := 8 * s.toPass + s.handOff.backlog

/-- Inside its pass and on the way to it the worker has nothing before the pass. -/
theorem ThreadedReceiver.toPass_of_not_between {s : ThreadedReceiver τ}
    (hat : s.receiverWorker.between = false) : s.toPass = s.workerAhead := by
  unfold toPass
  cases hworker : s.receiverWorker <;> simp_all [WorkerAt.between]

/-- Outside of its pass the worker has nothing left to do of it. -/
theorem ThreadedReceiver.remains_of_not_inPass {s : ThreadedReceiver τ}
    (hat : s.receiverWorker.inPass = false) : s.remains = (s.receiver, []) := by
  unfold remains
  cases hworker : s.receiverWorker <;> simp_all [WorkerAt.inPass]

/-! ## §3 A receiver that is left alone -/

/-- What is done to a receiver that is left alone, at this time or later. -/
def Undisturbed (t : ℤ) : ThreadedAction τ → Prop
  | .call => True
  | .receiverWorker now => t ≤ now
  | .deliveryWorker spuriously => spuriously = false
  | _ => False

/-- These are passes of `receiverWorker`. -/
def Passes (ps : List (Event τ)) : Prop := ∀ e ∈ ps, ∃ lTimeNow, e = .receiverWorkerPass lTimeNow

/-- After these calls and passes there were only passes. No call is under way, nobody stops the
    receiver, and all deadlines are over at this time. -/
structure LeftAlone (B H : UInt32) (t : ℤ) (es : List (Event τ)) (s : ThreadedReceiver τ) :
    Prop where
  ending : s.Ending
  linearized : ∃ ps, Passes ps ∧ Linearized B H (es ++ ps) s
  expired : Expired B H es t
  outside : s.call = .outside
  active : s.handOff.mThreadActive = true
  flagged : s.handOff.Flagged

namespace LeftAlone

variable {B H : UInt32} {t : ℤ} {es : List (Event τ)} {s s' : ThreadedReceiver τ}

/-- Only passes take their places. -/
theorem answer_passes (h : LeftAlone B H t es s) (action : ThreadedAction τ) :
    Passes (s.answer action) := by
  unfold ThreadedReceiver.answer
  intro e he
  cases action with
  | call => simp [h.outside] at he
  | receiverWorker now =>
    simp only [] at he
    split at he
    · exact ⟨_, List.mem_singleton.mp he⟩
    · exact absurd he List.not_mem_nil
  | _ => exact absurd he List.not_mem_nil

/-- Nothing happens in a step of the call. -/
theorem callStep (h : LeftAlone B H t es s) : s.step .call = s := by
  show s.callStep = s
  rw [ThreadedReceiver.callStep, h.outside]

/-- The thread that steps does not change whether the receiver is stopped. -/
private theorem step_active (h : LeftAlone B H t es s) {action : ThreadedAction τ}
    (haction : Undisturbed t action) :
    (s.step action).call = .outside ∧ (s.step action).handOff.mThreadActive = true := by
  cases action with
  | call =>
    rw [h.callStep]
    exact ⟨h.outside, h.active⟩
  | receiverWorker now =>
    have hstep : s.WorkerStep now (s.step (.receiverWorker now)) := s.receiverWorkerStep_cases now
    generalize s.step (.receiverWorker now) = s' at hstep ⊢
    obtain ⟨-, -, -, hcall⟩ := ThreadedReceiver.workerStep_others hstep
    refine ⟨hcall.trans h.outside, ?_⟩
    cases hstep with
    | pushes frame more rest ids hat =>
      exact (s.handOff.receiverWorkerStep_others frame).2.2.1.trans h.active
    | _ => exact h.active
  | deliveryWorker spuriously =>
    have hstep : s.DeliveryStep spuriously (s.step (.deliveryWorker spuriously)) :=
      s.deliveryWorkerStep_cases spuriously
    generalize s.step (.deliveryWorker spuriously) = s' at hstep ⊢
    cases hstep with
    | works hat =>
      exact ⟨h.outside, (s.handOff.deliveryWorkerStep_others spuriously).2.2.1.trans h.active⟩
    | clears hat => exact ⟨h.outside, h.active⟩
  | _ => exact haction.elim

/-- **It is left alone.** -/
theorem step (h : LeftAlone B H t es s) {action : ThreadedAction τ}
    (haction : Undisturbed t action) : LeftAlone B H t es (s.step action) := by
  obtain ⟨houtside, hactive⟩ := h.step_active haction
  obtain ⟨ps, hps, hlinearized⟩ := h.linearized
  refine
    { ending := h.ending.step action
      linearized := ⟨ps ++ s.answer action, ?_, ?_⟩
      expired := h.expired
      outside := houtside
      active := hactive
      flagged := ThreadedReceiver.flagged_step h.ending.safe (fun _ => h.flagged) action hactive }
  · exact fun e he => (List.mem_append.mp he).elim (hps e) (h.answer_passes action e)
  · rw [← List.append_assoc]
    exact hlinearized.step action

/-- The threads that go on have not come to their ends. -/
theorem going (h : LeftAlone B H t es s) :
    s.receiverWorker.left = false ∧ s.handOff.deliveryWorker ≠ .finished := by
  constructor
  · by_contra hleft
    have hcleared := h.ending.workerLeft (by simpa using hleft)
    exact absurd (hcleared.symm.trans h.active) (by simp)
  · intro hat
    have hcleared := h.ending.deliveryLeft hat
    exact absurd (hcleared.symm.trans h.active) (by simp)

/-- `receiverWorker` has not come to its end, so it is not blocked when all the others are. -/
theorem someone (h : LeftAlone B H t es s) : ∃ t, ¬ s.Blocked t := by
  by_contra hall
  have hblocked : ∀ t, s.Blocked t := by simpa using hall
  rcases hblocked .receiverWorker with hat | ⟨-, hheld⟩ | ⟨_, _, _, -, -, hheld⟩
  · have hleft := h.ending.workerLeft (by rw [hat]; rfl)
    exact absurd (hleft.symm.trans h.active) (by simp)
  · exact hheld (h.ending.safe.net_free hblocked)
  · exact hheld (h.ending.safe.queue_free hblocked)

/-- **A step of `receiverWorker`** brings it nearer to the end of its pass, or is its end. -/
private theorem workerStep (h : LeftAlone B H t es s) {now : ℤ} (hstep : s.WorkerStep now s') :
    (s' = s ∧ s.Blocked .receiverWorker) ∨ s'.toPass < s.toPass ∨
      (s'.receiverWorker = .unlockNet ∧ s'.receiver = s.remains.1 ∧
        (s.receiverWorker.inPass = false → s.receiver.mBucketMap.size = 0)) := by
  have hahead : s.receiverWorker ≠ .loopTest →
      (s' = s ∧ s.Blocked .receiverWorker) ∨ s'.workerAhead < s.workerAhead := fun hat =>
    ThreadedReceiver.workerStep_ahead h.ending.safe hstep fun hloop => absurd hloop hat
  cases hstep with
  | begins hat =>
    right
    left
    simp [ThreadedReceiver.toPass, hat]
  | goesOn hat hactive =>
    right
    left
    simp [ThreadedReceiver.toPass, hat, ThreadedReceiver.workerAhead, WorkerAt.ahead]
  | ends hat hstopped => exact absurd (hstopped.symm.trans h.active) (by simp)
  | skips hat hempty =>
    right
    right
    exact ⟨rfl, by rw [ThreadedReceiver.remains_of_not_inPass (by rw [hat]; rfl)],
      fun _ => hempty⟩
  | erased hat =>
    right
    right
    refine ⟨rfl, ?_, fun hout => ?_⟩
    · simp [ThreadedReceiver.remains, hat, Receiver.deleteList]
    · rw [hat] at hout
      exact absurd hout (by simp [WorkerAt.inPass])
  | unlocks hat =>
    right
    left
    simp [ThreadedReceiver.toPass, hat]
  | clears hat =>
    have hleft := h.ending.workerLeft (by rw [hat]; rfl)
    exact absurd (hleft.symm.trans h.active) (by simp)
  | isOver hat =>
    have hleft := h.ending.workerLeft (by rw [hat]; rfl)
    exact absurd (hleft.symm.trans h.active) (by simp)
  | waits hat hheld => exact Or.inl ⟨rfl, Or.inr (Or.inl ⟨hat, hheld⟩)⟩
  | _ =>
    rw [ThreadedReceiver.toPass_of_not_between (by simp [*, WorkerAt.between]),
      ThreadedReceiver.toPass_of_not_between (s := s) (by simp [*, WorkerAt.between])]
    exact (hahead (by simp [*])).imp_right Or.inl

/-- A step of `receiverWorker` puts one superframe into the queue at most. -/
private theorem workerStep_backlog {now : ℤ} (hstep : s.WorkerStep now s') :
    s'.handOff.backlog ≤ s.handOff.backlog + 7 := by
  cases hstep with
  | pushes frame more rest ids hat => exact s.handOff.receiverWorkerStep_backlog frame
  | _ => exact Nat.le_add_right _ _

/-- **One step**: of a thread that is blocked, or one step less, or the last one of a pass. -/
theorem step_drains (h : LeftAlone B H t es s) {action : ThreadedAction τ}
    (haction : Undisturbed t action) :
    (s.step action = s ∧ s.Blocked action.turn) ∨ (s.step action).toDrain < s.toDrain ∨
      ((s.step action).receiverWorker = .unlockNet ∧ (s.step action).receiver = s.remains.1 ∧
        (s.receiverWorker.inPass = false → s.receiver.mBucketMap.size = 0)) := by
  cases action with
  | call => exact Or.inl ⟨h.callStep, Or.inl (Or.inl h.outside)⟩
  | receiverWorker now =>
    have hstep : s.WorkerStep now (s.step (.receiverWorker now)) := s.receiverWorkerStep_cases now
    generalize s.step (.receiverWorker now) = s' at hstep ⊢
    rcases h.workerStep hstep with hblocked | hless | hlast
    · exact Or.inl hblocked
    · have hbacklog := workerStep_backlog hstep
      refine Or.inr (Or.inl ?_)
      unfold ThreadedReceiver.toDrain
      omega
    · exact Or.inr (Or.inr hlast)
  | deliveryWorker spuriously =>
    obtain rfl : spuriously = false := haction
    have hstep : s.DeliveryStep false (s.step (.deliveryWorker false)) :=
      s.deliveryWorkerStep_cases false
    generalize s.step (.deliveryWorker false) = s' at hstep ⊢
    cases hstep with
    | works hat =>
      obtain ⟨hworker, -⟩ := s.handOff.deliveryWorkerStep_others false
      rcases HandOff.deliveryWorkerStep_backlog h.active h.flagged hat with
        ⟨hsame, hwaits⟩ | hless
      · exact Or.inl ⟨by rw [hsame], Or.inr hwaits⟩
      · refine Or.inr (Or.inl ?_)
        simp only [ThreadedReceiver.toDrain, ThreadedReceiver.toPass,
          ThreadedReceiver.workerAhead, hworker]
        omega
    | clears hat => exact absurd hat h.going.2
  | _ => exact haction.elim

/-- What remains of the pass changes only when a call or a pass takes its place. -/
theorem remains_of_silent (h : LeftAlone B H t es s) {action : ThreadedAction τ}
    (hanswer : s.answer action = []) : (s.step action).remains.1 = s.remains.1 := by
  obtain ⟨ps, -, hlinearized⟩ := h.linearized
  have hnext := (hlinearized.step action).receiver
  rw [hanswer, List.append_nil] at hnext
  exact hnext.symm.trans hlinearized.receiver

end LeftAlone

/-! ## §4 The three stages -/

section Stages

variable (B H : UInt32) (t : ℤ) (es : List (Event τ))

/-- **`rounding`**: `receiverWorker` ends its pass. -/
private theorem rounding : (threadedMachine τ).Progress ThreadedAction.turn (Undisturbed t)
    (LeftAlone B H t es) (fun s => s.receiverWorker.between = true) (fun s t => ¬ s.Blocked t)
    ThreadedReceiver.toDrain where
  keeps := fun _ _ haction h _ => h.step haction
  someone := fun _ h _ => h.someone
  goesOn := by
    intro s action haction h _
    rcases h.step_drains haction with ⟨hsame, hblocked⟩ | hless | ⟨hlast, -⟩
    · have hsame : ((threadedMachine τ).step s action).1 = s := hsame
      rw [hsame]
      exact Or.inr (Or.inr ⟨le_rfl, fun t ht => ⟨fun hturn => ht (hturn ▸ hblocked), ht⟩⟩)
    · exact Or.inr (Or.inl hless)
    · left
      show (s.step action).receiverWorker.between = true
      rw [hlast]
      rfl

/-- The next pass is behind all deadlines, and when it has begun it leaves no bucket in use. -/
structure Passing (s : ThreadedReceiver τ) : Prop extends LeftAlone B H t es s where
  late : s.receiverWorker.hasRead = true → t ≤ s.clock.lTimeNow
  empties : s.receiverWorker.inPass = true → s.remains.1.mBucketMap.size = 0

variable {B H t es} {s s' : ThreadedReceiver τ}

/-- A pass begins when the worker has looked whether the map is empty, with the time for which it
    has read the clock. -/
private theorem workerStep_enters {now : ℤ} (hstep : s.WorkerStep now s') :
    (s'.receiverWorker.inPass = true → s.receiverWorker.inPass = true ∨
      s.receiverWorker = .emptyTest ∧ s.receiver.mBucketMap.size ≠ 0) ∧
    (s'.receiverWorker.hasRead = true →
      s.receiverWorker.hasRead = true ∧ s'.clock = s.clock ∨ s'.clock = s.clock.tick now) := by
  cases hstep <;> simp_all [WorkerAt.inPass, WorkerAt.hasRead]

/-- Outside of a pass the receiver stays as it is. -/
private theorem workerStep_receiver {now : ℤ} (hstep : s.WorkerStep now s')
    (hat : s.receiverWorker.inPass = false) :
    s'.receiver = s.receiver ∧ s'.handOff = s.handOff := by
  cases hstep <;> simp_all [WorkerAt.inPass]

/-- A pass behind all deadlines leaves no bucket in use. -/
private theorem Passing.begun (h : Passing B H t es s) (hat : s.receiverWorker = .emptyTest)
    (now : ℤ) : (s.step (.receiverWorker now)).remains.1.mBucketMap.size = 0 := by
  obtain ⟨ps, hps, hlinearized⟩ := h.linearized
  have hlate : t ≤ s.clock.lTimeNow := h.late (by rw [hat]; rfl)
  have hexpired : Expired B H (es ++ ps) s.clock.lTimeNow := by
    refine h.expired.mono (fun a ha => (List.mem_append.mp ha).resolve_right fun hpass => ?_) hlate
    obtain ⟨lTimeNow, heq⟩ := hps _ hpass
    exact absurd heq (by simp)
  have hnext := (hlinearized.step (.receiverWorker now)).receiver
  rw [ThreadedReceiver.answer_emptyTest hat] at hnext
  rw [← hnext, (coherent_run B H .THREADED _).size_eq_zero_iff]
  exact hexpired.idle (Or.inr rfl)

/-- **A step on the way through the pass.** -/
private theorem Passing.step (h : Passing B H t es s) {action : ThreadedAction τ}
    (haction : Undisturbed t action) : Passing B H t es (s.step action) := by
  refine { h.toLeftAlone.step haction with late := ?_, empties := ?_ }
  · cases action with
    | call =>
      rw [h.callStep]
      exact h.late
    | receiverWorker now =>
      have hstep : s.WorkerStep now (s.step (.receiverWorker now)) :=
        s.receiverWorkerStep_cases now
      intro hread
      rcases (workerStep_enters hstep).2 hread with ⟨hbefore, hclock⟩ | hclock
      · rw [hclock]
        exact h.late hbefore
      -- the clock that is read is behind all deadlines
      · rw [hclock, WorkerClock.tick_now]
        exact le_max_of_le_right haction
    | deliveryWorker spuriously =>
      have hstep : s.DeliveryStep spuriously (s.step (.deliveryWorker spuriously)) :=
        s.deliveryWorkerStep_cases spuriously
      generalize s.step (.deliveryWorker spuriously) = s' at hstep ⊢
      cases hstep with
      | works hat => exact h.late
      | clears hat => exact h.late
    | _ => exact haction.elim
  · intro hin
    cases action with
    | call =>
      rw [h.callStep] at hin ⊢
      exact h.empties hin
    | receiverWorker now =>
      have hstep : s.WorkerStep now (s.step (.receiverWorker now)) :=
        s.receiverWorkerStep_cases now
      rcases (workerStep_enters hstep).1 hin with hbefore | ⟨hat, -⟩
      · have hanswer : s.answer (.receiverWorker now) = [] := by
          simp only [ThreadedReceiver.answer]
          split
          case h_1 hat => exact absurd (hat ▸ hbefore) (by simp [WorkerAt.inPass])
          case h_2 => rfl
        rw [h.remains_of_silent hanswer]
        exact h.empties hbefore
      · exact h.begun hat now
    | deliveryWorker spuriously =>
      have hsame : (s.step (.deliveryWorker spuriously)).remains.1 = s.remains.1 :=
        h.remains_of_silent rfl
      rw [hsame]
      have hstep : s.DeliveryStep spuriously (s.step (.deliveryWorker spuriously)) :=
        s.deliveryWorkerStep_cases spuriously
      generalize s.step (.deliveryWorker spuriously) = s' at hstep hin
      cases hstep with
      | works hat => exact h.empties hin
      | clears hat => exact h.empties hin
    | _ => exact haction.elim

/-- **`passing`**: `receiverWorker` makes the pass. -/
private theorem passing : (threadedMachine τ).Progress ThreadedAction.turn (Undisturbed t)
    (Passing B H t es)
    (fun s => s.receiver.mBucketMap.size = 0 ∧ s.receiverWorker.inPass = false)
    (fun s t => ¬ s.Blocked t) ThreadedReceiver.toDrain where
  keeps := fun _ _ haction h _ => h.step haction
  someone := fun _ h _ => h.someone
  goesOn := by
    intro s action haction h _
    rcases h.step_drains haction with ⟨hsame, hblocked⟩ | hless | ⟨hlast, hreceiver, hempty⟩
    · have hsame : ((threadedMachine τ).step s action).1 = s := hsame
      rw [hsame]
      exact Or.inr (Or.inr ⟨le_rfl, fun t ht => ⟨fun hturn => ht (hturn ▸ hblocked), ht⟩⟩)
    · exact Or.inr (Or.inl hless)
    · left
      show (s.step action).receiver.mBucketMap.size = 0 ∧
        (s.step action).receiverWorker.inPass = false
      rw [hreceiver, hlast]
      refine ⟨?_, rfl⟩
      cases hin : s.receiverWorker.inPass with
      | true => exact h.empties hin
      | false =>
        rw [ThreadedReceiver.remains_of_not_inPass hin]
        exact hempty hin

/-- No bucket is in use, and no pass is under way. -/
structure Emptying (B H : UInt32) (t : ℤ) (es : List (Event τ)) (s : ThreadedReceiver τ) : Prop
    extends LeftAlone B H t es s where
  empty : s.receiver.mBucketMap.size = 0
  between : s.receiverWorker.inPass = false

/-- Nothing is put into the queue any more. -/
private theorem Emptying.workerStep (h : Emptying B H t es s) {now : ℤ}
    (hstep : s.WorkerStep now s') :
    s'.receiver.mBucketMap.size = 0 ∧ s'.receiverWorker.inPass = false ∧
      s'.handOff = s.handOff := by
  obtain ⟨hreceiver, hhandOff⟩ := workerStep_receiver hstep h.between
  refine ⟨by rw [hreceiver, h.empty], ?_, hhandOff⟩
  by_contra hin
  rcases (workerStep_enters hstep).1 (by simpa using hin) with hbefore | ⟨-, hsome⟩
  · exact absurd (h.between.symm.trans hbefore) (by simp)
  · exact hsome h.empty

/-- **A step that empties the queue.** -/
private theorem Emptying.step (h : Emptying B H t es s) {action : ThreadedAction τ}
    (haction : Undisturbed t action) : Emptying B H t es (s.step action) := by
  have halone := h.toLeftAlone.step haction
  cases action with
  | call =>
    rw [h.callStep]
    exact h
  | receiverWorker now =>
    have hstep : s.WorkerStep now (s.step (.receiverWorker now)) := s.receiverWorkerStep_cases now
    obtain ⟨hempty, hbetween, -⟩ := h.workerStep hstep
    exact { halone with empty := hempty, between := hbetween }
  | deliveryWorker spuriously =>
    have hstep : s.DeliveryStep spuriously (s.step (.deliveryWorker spuriously)) :=
      s.deliveryWorkerStep_cases spuriously
    generalize s.step (.deliveryWorker spuriously) = s' at hstep halone ⊢
    cases hstep with
    | works hat => exact { halone with empty := h.empty, between := h.between }
    | clears hat => exact absurd hat h.going.2
  | _ => exact haction.elim

/-- **`deliveryWorker` is not kept waiting** while there is something to deliver. -/
private theorem Emptying.not_waiting (h : Emptying B H t es s)
    (hopen : s.handOff.delivered ≠ s.handOff.pushed) :
    ¬ ((s.handOff.deliveryWorker = .lock ∧ s.handOff.mSuperFrameMtx ≠ none) ∨
      (s.handOff.deliveryWorker = .waiting ∧
        (s.handOff.mSuperFrameMtx ≠ none ∨ s.handOff.signalled = false))) := by
  have hsafe := h.ending.safe
  have hpush := hsafe.noPush fun frame more rest ids hat => by
    have hbetween := h.between
    rw [hat] at hbetween
    exact absurd hbetween (by simp [WorkerAt.inPass])
  have hstop := hsafe.noSignal (by simp [h.outside])
  -- nobody else pushes or signals, so only `deliveryWorker` can have the mutex
  have hfree : s.handOff.deliveryWorker.holds = false → s.handOff.mSuperFrameMtx = none := by
    intro hdelivery
    by_contra hheld
    obtain ⟨holder, hholder⟩ := Option.ne_none_iff_exists'.mp hheld
    cases holder with
    | receiverWorker =>
      have hholds := hsafe.handOff.workerMtx.mp hholder
      exact absurd hholds (by simp [hpush, ReceiverWorkerAt.holds])
    | deliveryWorker =>
      have hholds := hsafe.handOff.deliveryMtx.mp hholder
      exact absurd (hdelivery.symm.trans hholds) (by simp)
    | stopReceiver =>
      have hholds := hsafe.handOff.stopMtx.mp hholder
      exact absurd hholds (by simp [hstop, StopReceiverAt.holds])
  rintro (⟨hat, hheld⟩ | ⟨hat, hheld | hnone⟩)
  · exact hheld (hfree (by rw [hat]; rfl))
  · exact hheld (hfree (by rw [hat]; rfl))
  · -- what is not delivered is in the queue, so the flag is up and a signal was sent
    have hsome : s.handOff.mSuperFrameQueue ≠ [] := by
      intro hempty
      refine hopen ?_
      rw [hsafe.handOff.ledger, hat, hempty]
      simp [DeliveryWorkerAt.inHand]
    have hready := (hsafe.handOff.ready hsome).resolve_right (by simp [hpush])
    rcases hsafe.handOff.wakes (by rw [HandOff.waits, hat]) hready with hsignal | hwill | hwill
    · exact absurd (hnone.symm.trans hsignal) (by simp)
    · exact absurd hwill (by simp [hpush, ReceiverWorkerAt.willNotify])
    · exact absurd hwill (by simp [hstop, StopReceiverAt.willNotify])

/-- **`emptying`**: `deliveryWorker` delivers what is in the queue. -/
private theorem emptying : (threadedMachine τ).Progress ThreadedAction.turn (Undisturbed t)
    (Emptying B H t es) (fun s => s.handOff.delivered = s.handOff.pushed)
    (fun _ t => t = .deliveryWorker) (fun s => s.handOff.backlog) where
  keeps := fun _ _ haction h _ => h.step haction
  someone := fun _ _ _ => ⟨.deliveryWorker, rfl⟩
  goesOn := by
    intro s action haction h hopen
    right
    show (s.step action).handOff.backlog < s.handOff.backlog ∨
      (s.step action).handOff.backlog ≤ s.handOff.backlog ∧ _
    cases action with
    | call =>
      rw [h.callStep]
      exact Or.inr ⟨le_rfl, fun _ ht => ⟨by rw [ht]; simp [ThreadedAction.turn], ht⟩⟩
    | receiverWorker now =>
      have hstep : s.WorkerStep now (s.step (.receiverWorker now)) :=
        s.receiverWorkerStep_cases now
      rw [(h.workerStep hstep).2.2]
      exact Or.inr ⟨le_rfl, fun _ ht => ⟨by rw [ht]; simp [ThreadedAction.turn], ht⟩⟩
    | deliveryWorker spuriously =>
      obtain rfl : spuriously = false := haction
      have hstep : s.DeliveryStep false (s.step (.deliveryWorker false)) :=
        s.deliveryWorkerStep_cases false
      generalize s.step (.deliveryWorker false) = s' at hstep ⊢
      cases hstep with
      | works hat =>
        rcases HandOff.deliveryWorkerStep_backlog h.active h.flagged hat with ⟨-, hwaits⟩ | hless
        · exact absurd hwaits (h.not_waiting hopen)
        · exact Or.inl hless
      | clears hat => exact absurd hat h.going.2
    | _ => exact haction.elim

/-- **The stages, one after the other.** -/
theorem LeftAlone.drains (h : LeftAlone B H t es s) {later : ℕ → ThreadedAction τ}
    (hundisturbed : ∀ n, Undisturbed t (later n))
    (hfair : Machine.Fair ThreadedAction.turn later) :
    ∃ n, Emptying B H t es ((threadedMachine τ).after s later n) ∧
      ((threadedMachine τ).after s later n).handOff.delivered =
        ((threadedMachine τ).after s later n).handOff.pushed := by
  obtain ⟨n, hrounded, hbetween⟩ := (rounding B H t es).reaches h hundisturbed hfair
  have hpassing : Passing B H t es ((threadedMachine τ).after s later n) := by
    generalize (threadedMachine τ).after s later n = s' at hrounded hbetween ⊢
    refine { hrounded with late := fun hread => ?_, empties := fun hin => ?_ }
    · cases hat : s'.receiverWorker <;> simp_all [WorkerAt.between, WorkerAt.hasRead]
    · cases hat : s'.receiverWorker <;> simp_all [WorkerAt.between, WorkerAt.inPass]
  obtain ⟨m, hpassed, hempty, hout⟩ :=
    passing.reaches hpassing (fun k => hundisturbed (n + k)) (hfair.shift n)
  rw [← Machine.after_add] at hpassed hempty hout
  have hemptying : Emptying B H t es ((threadedMachine τ).after s later (n + m)) :=
    { hpassed.toLeftAlone with empty := hempty, between := hout }
  obtain ⟨k, hemptied, hdelivered⟩ :=
    emptying.reaches hemptying (fun k => hundisturbed (n + m + k)) (hfair.shift (n + m))
  rw [← Machine.after_add] at hemptied hdelivered
  exact ⟨n + m + k, hemptied, hdelivered⟩

end Stages

/-! ## §5 Every fair schedule -/

section Fair

variable {B H : UInt32} {t : ℤ} {schedule : List (ThreadedAction τ)}

/-- At the end of a run the receiver may be left alone. -/
theorem leftAlone_run
    (houtside : ((threadedMachine τ).run (.new τ B H) schedule).call = .outside)
    (hactive : ((threadedMachine τ).run (.new τ B H) schedule).handOff.mThreadActive = true)
    (hexpired : Expired B H (sequential B H schedule) t) :
    LeftAlone B H t (sequential B H schedule)
      ((threadedMachine τ).run (.new τ B H) schedule) where
  ending := ThreadedReceiver.ending_run B H schedule
  linearized := ⟨[], nofun, by
    rw [List.append_nil]
    exact linearized_run B H schedule⟩
  expired := hexpired
  outside := houtside
  active := hactive
  flagged := ThreadedReceiver.flagged_run B H schedule hactive

/-- What the callback has got when nothing is left to deliver: what a sequential receiver hands out
    that is given the calls, and these passes behind them. -/
theorem Emptying.delivers {es : List (Event τ)} {s : ThreadedReceiver τ}
    (h : Emptying B H t es s) (hdelivered : s.handOff.delivered = s.handOff.pushed) :
    ∃ ps, Passes ps ∧
      (∀ i, (((receiverMachine τ).run (.fresh τ B H .THREADED) (es ++ ps)).receiver.mBucketList
        i).mActive = false) ∧
      s.receiver = ((receiverMachine τ).run (.fresh τ B H .THREADED) (es ++ ps)).receiver ∧
      s.handOff.delivered =
        framesOf ((receiverMachine τ).outputs (.fresh τ B H .THREADED) (es ++ ps)) := by
  obtain ⟨ps, hps, hlinearized⟩ := h.linearized
  obtain ⟨hreceiver, hframes⟩ :=
    hlinearized.agrees (ThreadedReceiver.remains_of_not_inPass h.between)
  refine ⟨ps, hps, ?_, hreceiver.symm, hdelivered.trans hframes.symm⟩
  rw [← (coherent_run B H .THREADED _).size_eq_zero_iff, hreceiver]
  exact h.empty

/-- The superframes handed out, counted. -/
theorem framesOf_length (os : List (Report τ)) : (framesOf os).length = handedCount os := by
  simp [framesOf, handedCount, List.length_flatMap]

/-- **Everything gets through.** From every state of every run in which no call is under way and
    nobody has stopped the receiver: when it is left alone, every thread has its turn again and
    again, and the clock has passed all deadlines, no bucket is in use some time, and the callback
    has got every superframe that was ever opened, but for those that were given up in a call that
    said so. What it got, and in which order, is what a sequential receiver hands out. -/
theorem everything_gets_through
    (houtside : ((threadedMachine τ).run (.new τ B H) schedule).call = .outside)
    (hactive : ((threadedMachine τ).run (.new τ B H) schedule).handOff.mThreadActive = true)
    (hexpired : Expired B H (sequential B H schedule) t) {later : ℕ → ThreadedAction τ}
    (hundisturbed : ∀ n, Undisturbed t (later n))
    (hfair : Machine.Fair ThreadedAction.turn later) :
    ∃ n ps, Passes ps ∧
      let s := (threadedMachine τ).after
        ((threadedMachine τ).run (.new τ B H) schedule) later n
      let os := (receiverMachine τ).outputs (.fresh τ B H .THREADED)
        (sequential B H schedule ++ ps)
      (∀ i, (s.receiver.mBucketList i).mActive = false) ∧
      s.handOff.delivered = framesOf os ∧
      openedCount os = s.handOff.delivered.length + droppedCount os := by
  obtain ⟨n, hemptied, hdelivered⟩ :=
    (leftAlone_run houtside hactive hexpired).drains hundisturbed hfair
  obtain ⟨ps, hps, hidle, hreceiver, hframes⟩ := hemptied.delivers hdelivered
  refine ⟨n, ps, hps, fun i => ?_, hframes, ?_⟩
  · rw [hreceiver]
    exact hidle i
  · rw [hframes, framesOf_length]
    exact ledger_of_idle hidle

/-- The clock stands still behind all deadlines. -/
theorem undisturbed_roundRobin (t : ℤ) (n : ℕ) : Undisturbed t (roundRobin τ t n) := by
  unfold roundRobin
  split_ifs
  · exact trivial
  · exact le_refl t
  · exact rfl

/-- A lone fragment whose superframe never becomes complete. -/
theorem everything_gets_through_lone :
    ∃ n ps, Passes ps ∧
      ((threadedMachine Unit).after ((threadedMachine Unit).run (.new Unit 100 50)
        (.receiveFragment loneArrival :: List.replicate 5 .call))
          (roundRobin Unit 150000) n).handOff.delivered =
        framesOf ((receiverMachine Unit).outputs (.fresh Unit 100 50 .THREADED)
          ([.receiveFragment loneArrival] ++ ps)) := by
  have hexpired : Expired 100 50 (sequential 100 50
      (.receiveFragment loneArrival :: List.replicate 5 .call)) 150000 := by
    intro a ha
    obtain rfl := Event.receiveFragment.inj (List.mem_singleton.mp ha)
    decide
  obtain ⟨n, ps, hps, -, hframes, -⟩ := everything_gets_through rfl rfl hexpired
    (undisturbed_roundRobin 150000) (roundRobin_fair 150000)
  exact ⟨n, ps, hps, hframes⟩

end Fair

end ElasticFrame.Threads
