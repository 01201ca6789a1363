import ElasticFrame.Receiver.Run
import ElasticFrame.Threads.SuperFrameQueue
import ElasticFrame.Threads.WorkerRounds

/-!
# The Threaded Receiver

A receiver in threaded mode: its two threads, and the calls made to it from outside.

- `receiverWorker` sleeps, takes `mNetMtx` and makes a pass, round by round; every superframe it
  hands out goes through the queue of `SuperFrameQueue`
- `deliveryWorker` is that of `SuperFrameQueue`; at its end it clears its flag
- `receiveFragmentFromPtr`, `stopReceiver` and the destructor: the first two hold `mReceiveMtx` from
  their first statement to their last, so at most one call is under way, whichever thread makes it

One step is one access of one thread to the shared state; a thread that has to wait for a mutex
stays where it is. The members that `mNetMtx` protects are changed in place, in every round of a
pass and in every unpacking.

- The destructor is called when no other call is under way, and no call comes after it.
- `stopReceiver` is private, and only the destructor calls it. Here it may also be called at any
  other time: what holds in every run holds in those of the program.
- `mIsWorkerThreadActive` and `mIsDeliveryThreadActive` are here and not in `receiver`, where they
  keep the values of the constructor.
- `WORKER_THREAD_SLEEP_US` is the pace of the passes; that a thread really sleeps as long as it is
  told to is not assumed.
-/

namespace ElasticFrame.Threads

open ElasticFrame.Lib

/-! ## §1 The pace of the worker -/

/-- `WORKER_THREAD_SLEEP_US`. -/
def WORKER_THREAD_SLEEP_US : ℤ := 10000

/-- The variables of `receiverWorker` that set its pace. -/
structure WorkerClock where
  lTimeReference : ℤ := 0
  lTimeSample : ℤ := 0
  lTimeCompensation : ℤ := 0

/-- `lTimeNow` of a pass. -/
def WorkerClock.lTimeNow (c : WorkerClock) : ℤ := c.lTimeSample + c.lTimeCompensation

/-- The reference moves on by a period, or to the clock when the worker is late. -/
def WorkerClock.tick (c : WorkerClock) (now : ℤ) : WorkerClock :=
  let lTimeReference := c.lTimeReference + WORKER_THREAD_SLEEP_US
  let lTimeCompensation := lTimeReference - now
  if lTimeCompensation < 0 then
    -- overloaded
    { lTimeReference := now, lTimeSample := now, lTimeCompensation := 0 }
  else
    { lTimeReference, lTimeSample := now, lTimeCompensation }

/-- A pass is made at the reference. -/
theorem WorkerClock.tick_reference (c : WorkerClock) (now : ℤ) :
    (c.tick now).lTimeReference = (c.tick now).lTimeNow := by
  unfold tick lTimeNow
  simp only []
  split
  · simp
  · simp

/-- It is a period after the one before, or later, and not behind the clock. -/
theorem WorkerClock.tick_now (c : WorkerClock) (now : ℤ) :
    (c.tick now).lTimeNow = max (c.lTimeReference + WORKER_THREAD_SLEEP_US) now := by
  unfold tick lTimeNow
  simp only []
  split
  case isTrue hlate =>
    rw [max_eq_right (by omega), add_zero]
  case isFalse htimely =>
    rw [max_eq_left (by omega), add_sub_cancel]

/-! ## §2 The threads -/

/-- A thread that takes `mNetMtx`. -/
inductive NetThread where
  | receiveFragment
  | receiverWorker
  deriving DecidableEq, Repr

/-- The next statement of `receiverWorker`. -/
inductive WorkerAt where
  | begin
  | loopTest
  | readClock
  | lockNet
  | emptyTest
  | walk (rest : List (UInt64 × Slot)) (lDeleteList : List UInt64)
  | push (frames : List SuperFrame) (rest : List (UInt64 × Slot)) (lDeleteList : List UInt64)
  | erase (lDeleteList : List UInt64)
  | unlockNet
  | clearActive
  | finished

/-- The next statement of the call under way. `destructor`: `stopReceiver` was called from there. -/
inductive CallAt (τ : Type) where
  | outside
  | readWorkerActive (a : Arrival τ)
  | readDeliveryActive (a : Arrival τ) (mIsWorkerThreadActive : Bool)
  | lockNet (a : Arrival τ)
  | unpack (a : Arrival τ)
  | unlockNet (a : Arrival τ) (lMessage : ElasticFrameMessages)
  | signal (destructor : Bool)
  | pollWorker (destructor : Bool) (lLockProtect : ℕ)
  | pollDelivery (destructor : Bool) (lLockProtect : ℕ)
  | sleep (destructor : Bool) (lLockProtect : ℕ)
  | activeTest
  | deleteBuckets
  | destroyed

/-- What `stopReceiver` says: two of the `ElasticFrameMessages`. -/
inductive StopMessage where
  | noError
  | failedStoppingReceiver
  deriving DecidableEq, Repr

/-- A call that came back. -/
inductive Return (τ : Type) where
  | receiveFragment (a : Arrival τ) (lMessage : ElasticFrameMessages)
  | stopReceiver (message : StopMessage)

/-- A receiver in threaded mode, its threads, and the calls that came back. -/
structure ThreadedReceiver (τ : Type) where
  receiver : Receiver
  handOff : HandOff := {}
  mNetMtx : Option NetThread := none
  mIsWorkerThreadActive : Bool := true
  mIsDeliveryThreadActive : Bool := true
  receiverWorker : WorkerAt := .begin
  clock : WorkerClock := {}
  call : CallAt τ := .outside
  returned : List (Return τ) := []

variable {τ : Type}

/-- The constructor in threaded mode. -/
def ThreadedReceiver.new (τ : Type) (lBucketTimeoutMasterms lHolTimeoutMasterms : UInt32) :
    ThreadedReceiver τ where
  receiver := Receiver.new lBucketTimeoutMasterms lHolTimeoutMasterms .THREADED

/-! ## §3 Steps -/

/-- The notification is the last statement of a push. -/
def HandOff.endsPush (s : HandOff) : Bool :=
  match s.receiverWorker with
  | .notifyOne => true
  | _ => false

/-- The notification is the last statement of the signal to stop. -/
def HandOff.endsSignal (s : HandOff) : Bool :=
  match s.stopReceiver with
  | .notifyOne => true
  | _ => false

/-- One step of `receiverWorker`; `now` is what the clock says, if it is read. -/
def ThreadedReceiver.receiverWorkerStep (s : ThreadedReceiver τ) (now : ℤ) : ThreadedReceiver τ :=
  match s.receiverWorker with
  | .begin => { s with clock := { lTimeReference := now }, receiverWorker := .loopTest }
  | .loopTest =>
      { s with receiverWorker := if s.handOff.mThreadActive then .readClock else .clearActive }
  | .readClock => { s with clock := s.clock.tick now, receiverWorker := .lockNet }
  | .lockNet =>
      if s.mNetMtx = none then
        { s with mNetMtx := some .receiverWorker, receiverWorker := .emptyTest }
      else s
  -- `lTimeNow` is fixed by the clock that was read before the mutex was taken
  | .emptyTest =>
      { s with
        receiverWorker :=
          if s.receiver.mBucketMap.size = 0 then .unlockNet
          else .walk s.receiver.mBucketMap.toList [] }
  | .walk [] lDeleteList => { s with receiverWorker := .erase lDeleteList }
  -- a round may end the walk, as the `break` of head-of-line mode does
  | .walk (e :: rest) lDeleteList =>
      let round := s.receiver.receiverWorkerRound s.clock.lTimeNow e
        { s.receiver.startWalk with lDeleteList }
      { s with
        receiver := s.receiver.endWalk round.1
        receiverWorker :=
          .push (round.1.handed.map Handed.frame) (if round.2 then rest else [])
            round.1.lDeleteList }
  | .push [] rest lDeleteList => { s with receiverWorker := .walk rest lDeleteList }
  -- the section of `mSuperFrameMtx` and the notification behind it are several steps
  | .push (frame :: more) rest lDeleteList =>
      { s with
        handOff := s.handOff.receiverWorkerStep frame
        receiverWorker :=
          .push (if s.handOff.endsPush then more else frame :: more) rest lDeleteList }
  | .erase [] => { s with receiverWorker := .unlockNet }
  -- the buckets are given back one by one, behind the walk
  | .erase (bucketID :: rest) =>
      { s with receiver := s.receiver.deleteList [bucketID], receiverWorker := .erase rest }
  | .unlockNet => { s with mNetMtx := none, receiverWorker := .loopTest }
  | .clearActive => { s with mIsWorkerThreadActive := false, receiverWorker := .finished }
  | .finished => s

/-- One step of `deliveryWorker`. The flag is cleared after its loop. -/
def ThreadedReceiver.deliveryWorkerStep (s : ThreadedReceiver τ) (spuriously : Bool) :
    ThreadedReceiver τ :=
  match s.handOff.deliveryWorker with
  | .finished => { s with mIsDeliveryThreadActive := false }
  | _ => { s with handOff := s.handOff.deliveryWorkerStep spuriously }

/-- A call of `receiveFragmentFromPtr` comes back. -/
def ThreadedReceiver.receiveReturns (s : ThreadedReceiver τ) (a : Arrival τ)
    (lMessage : ElasticFrameMessages) : ThreadedReceiver τ :=
  { s with returned := s.returned ++ [.receiveFragment a lMessage], call := .outside }

/-- `stopReceiver` comes back, to its caller or to the destructor. -/
def ThreadedReceiver.stopReturns (s : ThreadedReceiver τ) (destructor : Bool)
    (message : StopMessage) : ThreadedReceiver τ :=
  { s with
    returned := s.returned ++ [.stopReceiver message]
    call := if destructor then .deleteBuckets else .outside }

/-- One step of the call under way. -/
def ThreadedReceiver.callStep (s : ThreadedReceiver τ) : ThreadedReceiver τ :=
  match s.call with
  | .outside => s
  | .readWorkerActive a => { s with call := .readDeliveryActive a s.mIsWorkerThreadActive }
  | .readDeliveryActive a mIsWorkerThreadActive =>
      -- the two flags are read one after the other
      if ¬ (mIsWorkerThreadActive ∧ s.mIsDeliveryThreadActive) then
        s.receiveReturns a .receiverNotRunning
      else if unpacks a.pSubPacket then { s with call := .lockNet a }
      else
        -- refused by its kind or its length, without any lock
        s.receiveReturns a
          (s.receiver.receiveFragmentFromPtr a.pSubPacket a.lFromSource a.amb).message
  | .lockNet a =>
      if s.mNetMtx = none then
        { s with mNetMtx := some .receiveFragment, call := .unpack a }
      else s
  | .unpack a =>
      let out := s.receiver.receiveFragmentFromPtr a.pSubPacket a.lFromSource a.amb
      { s with receiver := out.receiver, call := .unlockNet a out.message }
  | .unlockNet a lMessage => { s with mNetMtx := none }.receiveReturns a lMessage
  | .signal destructor =>
      { s with
        handOff := s.handOff.stopReceiverStep
        call := if s.handOff.endsSignal then .pollWorker destructor 1000 else .signal destructor }
  | .pollWorker destructor lLockProtect =>
      { s with
        call :=
          if s.mIsWorkerThreadActive then .sleep destructor lLockProtect
          else .pollDelivery destructor lLockProtect }
  -- only when the other flag was down, as the `||` of the loop has it
  | .pollDelivery destructor lLockProtect =>
      if s.mIsDeliveryThreadActive then { s with call := .sleep destructor lLockProtect }
      else s.stopReturns destructor .noError
  | .sleep destructor lLockProtect =>
      -- a second was given to the threads
      if lLockProtect - 1 = 0 then s.stopReturns destructor .failedStoppingReceiver
      else { s with call := .pollWorker destructor (lLockProtect - 1) }
  | .activeTest =>
      -- a receiver that somebody stopped is not stopped again
      { s with call := if s.handOff.mThreadActive then .signal true else .deleteBuckets }
  | .deleteBuckets => { s with call := .destroyed }
  | .destroyed => s

/-- A call begins, when `mReceiveMtx` is free. -/
def ThreadedReceiver.begins (s : ThreadedReceiver τ) (c : CallAt τ) : ThreadedReceiver τ :=
  match s.call with
  | .outside => { s with call := c }
  | _ => s

/-- A call begins, or a thread takes its next step. -/
inductive ThreadedAction (τ : Type) where
  | receiveFragment (a : Arrival τ)
  | stopReceiver
  | destroy
  | call
  | receiverWorker (now : ℤ)
  | deliveryWorker (spuriously : Bool)

/-- One step. -/
def ThreadedReceiver.step (s : ThreadedReceiver τ) : ThreadedAction τ → ThreadedReceiver τ
  | .receiveFragment a => s.begins (.readWorkerActive a)
  | .stopReceiver => s.begins (.signal false)
  | .destroy => s.begins .activeTest
  | .call => s.callStep
  | .receiverWorker now => s.receiverWorkerStep now
  | .deliveryWorker spuriously => s.deliveryWorkerStep spuriously

/-- The machine of a threaded receiver. -/
def threadedMachine (τ : Type) : Machine (ThreadedReceiver τ) (ThreadedAction τ) Unit :=
  ⟨fun s a => (s.step a, ())⟩

/-! ## §4 What a step can be -/

section Steps

variable (s : ThreadedReceiver τ)

/-- The steps of `receiverWorker`. -/
inductive ThreadedReceiver.WorkerStep (now : ℤ) : ThreadedReceiver τ → Prop where
  | begins (hat : s.receiverWorker = .begin) :
      WorkerStep now { s with clock := { lTimeReference := now }, receiverWorker := .loopTest }
  | goesOn (hat : s.receiverWorker = .loopTest) (hactive : s.handOff.mThreadActive = true) :
      WorkerStep now { s with receiverWorker := .readClock }
  | ends (hat : s.receiverWorker = .loopTest) (hstopped : s.handOff.mThreadActive = false) :
      WorkerStep now { s with receiverWorker := .clearActive }
  | sleeps (hat : s.receiverWorker = .readClock) :
      WorkerStep now { s with clock := s.clock.tick now, receiverWorker := .lockNet }
  | locks (hat : s.receiverWorker = .lockNet) (hfree : s.mNetMtx = none) :
      WorkerStep now { s with mNetMtx := some .receiverWorker, receiverWorker := .emptyTest }
  | waits (hat : s.receiverWorker = .lockNet) (hheld : s.mNetMtx ≠ none) : WorkerStep now s
  | skips (hat : s.receiverWorker = .emptyTest) (hempty : s.receiver.mBucketMap.size = 0) :
      WorkerStep now { s with receiverWorker := .unlockNet }
  | starts (hat : s.receiverWorker = .emptyTest) (hsome : s.receiver.mBucketMap.size ≠ 0) :
      WorkerStep now { s with receiverWorker := .walk s.receiver.mBucketMap.toList [] }
  | round (e : UInt64 × Slot) (rest : List (UInt64 × Slot)) (lDeleteList : List UInt64)
      (hat : s.receiverWorker = .walk (e :: rest) lDeleteList) (round : Walk × Bool)
      (hround : round = s.receiver.receiverWorkerRound s.clock.lTimeNow e
        { s.receiver.startWalk with lDeleteList }) :
      WorkerStep now
        { s with
          receiver := s.receiver.endWalk round.1
          receiverWorker :=
            .push (round.1.handed.map Handed.frame) (if round.2 then rest else [])
              round.1.lDeleteList }
  | walked (lDeleteList : List UInt64) (hat : s.receiverWorker = .walk [] lDeleteList) :
      WorkerStep now { s with receiverWorker := .erase lDeleteList }
  | pushes (frame : SuperFrame) (more : List SuperFrame) (rest : List (UInt64 × Slot))
      (lDeleteList : List UInt64)
      (hat : s.receiverWorker = .push (frame :: more) rest lDeleteList) :
      WorkerStep now
        { s with
          handOff := s.handOff.receiverWorkerStep frame
          receiverWorker :=
            .push (if s.handOff.endsPush then more else frame :: more) rest lDeleteList }
  | pushed (rest : List (UInt64 × Slot)) (lDeleteList : List UInt64)
      (hat : s.receiverWorker = .push [] rest lDeleteList) :
      WorkerStep now { s with receiverWorker := .walk rest lDeleteList }
  | erases (bucketID : UInt64) (rest : List UInt64)
      (hat : s.receiverWorker = .erase (bucketID :: rest)) :
      WorkerStep now
        { s with receiver := s.receiver.deleteList [bucketID], receiverWorker := .erase rest }
  | erased (hat : s.receiverWorker = .erase []) :
      WorkerStep now { s with receiverWorker := .unlockNet }
  | unlocks (hat : s.receiverWorker = .unlockNet) :
      WorkerStep now { s with mNetMtx := none, receiverWorker := .loopTest }
  | clears (hat : s.receiverWorker = .clearActive) :
      WorkerStep now { s with mIsWorkerThreadActive := false, receiverWorker := .finished }
  | isOver (hat : s.receiverWorker = .finished) : WorkerStep now s

/-- **`receiverWorker` makes no other steps.** -/
theorem ThreadedReceiver.receiverWorkerStep_cases (now : ℤ) :
    s.WorkerStep now (s.receiverWorkerStep now) := by
  unfold receiverWorkerStep
  split
  case h_1 hat => exact .begins hat
  case h_2 hat =>
    split
    case isTrue hactive => exact .goesOn hat hactive
    case isFalse hstopped => exact .ends hat (by simpa using hstopped)
  case h_3 hat => exact .sleeps hat
  case h_4 hat =>
    split
    case isTrue hfree => exact .locks hat hfree
    case isFalse hheld => exact .waits hat hheld
  case h_5 hat =>
    split
    case isTrue hempty => exact .skips hat hempty
    case isFalse hsome => exact .starts hat hsome
  case h_6 lDeleteList hat => exact .walked lDeleteList hat
  case h_7 e rest lDeleteList hat => exact .round e rest lDeleteList hat _ rfl
  case h_8 rest lDeleteList hat => exact .pushed rest lDeleteList hat
  case h_9 frame more rest lDeleteList hat => exact .pushes frame more rest lDeleteList hat
  case h_10 hat => exact .erased hat
  case h_11 bucketID rest hat => exact .erases bucketID rest hat
  case h_12 hat => exact .unlocks hat
  case h_13 hat => exact .clears hat
  case h_14 hat => exact .isOver hat

/-- The steps of `deliveryWorker`. -/
inductive ThreadedReceiver.DeliveryStep (spuriously : Bool) : ThreadedReceiver τ → Prop where
  | works (hat : s.handOff.deliveryWorker ≠ .finished) :
      DeliveryStep spuriously { s with handOff := s.handOff.deliveryWorkerStep spuriously }
  | clears (hat : s.handOff.deliveryWorker = .finished) :
      DeliveryStep spuriously { s with mIsDeliveryThreadActive := false }

/-- **`deliveryWorker` makes no other steps.** -/
theorem ThreadedReceiver.deliveryWorkerStep_cases (spuriously : Bool) :
    s.DeliveryStep spuriously (s.deliveryWorkerStep spuriously) := by
  unfold deliveryWorkerStep
  split
  case h_1 hat => exact .clears hat
  case h_2 hat => exact .works hat

/-- The steps of a call. -/
inductive ThreadedReceiver.CallStep : ThreadedReceiver τ → Prop where
  | idle (hat : s.call = .outside) : CallStep s
  | reads (a : Arrival τ) (hat : s.call = .readWorkerActive a) :
      CallStep { s with call := .readDeliveryActive a s.mIsWorkerThreadActive }
  | refuses (a : Arrival τ) (mIsWorkerThreadActive : Bool)
      (hat : s.call = .readDeliveryActive a mIsWorkerThreadActive)
      (hover : mIsWorkerThreadActive = false ∨ s.mIsDeliveryThreadActive = false) :
      CallStep (s.receiveReturns a .receiverNotRunning)
  | enters (a : Arrival τ) (hat : s.call = .readDeliveryActive a true)
      (hactive : s.mIsDeliveryThreadActive = true) (hunpacks : unpacks a.pSubPacket = true) :
      CallStep { s with call := .lockNet a }
  | answers (a : Arrival τ) (hat : s.call = .readDeliveryActive a true)
      (hactive : s.mIsDeliveryThreadActive = true) (hunpacks : unpacks a.pSubPacket = false) :
      CallStep (s.receiveReturns a
        (s.receiver.receiveFragmentFromPtr a.pSubPacket a.lFromSource a.amb).message)
  | locks (a : Arrival τ) (hat : s.call = .lockNet a) (hfree : s.mNetMtx = none) :
      CallStep { s with mNetMtx := some .receiveFragment, call := .unpack a }
  | waits (a : Arrival τ) (hat : s.call = .lockNet a) (hheld : s.mNetMtx ≠ none) : CallStep s
  | unpacks (a : Arrival τ) (hat : s.call = .unpack a) (out : Received)
      (hout : out = s.receiver.receiveFragmentFromPtr a.pSubPacket a.lFromSource a.amb) :
      CallStep { s with receiver := out.receiver, call := .unlockNet a out.message }
  | unlocks (a : Arrival τ) (lMessage : ElasticFrameMessages)
      (hat : s.call = .unlockNet a lMessage) :
      CallStep ({ s with mNetMtx := none }.receiveReturns a lMessage)
  | signals (destructor : Bool) (hat : s.call = .signal destructor) :
      CallStep
        { s with
          handOff := s.handOff.stopReceiverStep
          call := if s.handOff.endsSignal then .pollWorker destructor 1000
            else .signal destructor }
  | workerActive (destructor : Bool) (lLockProtect : ℕ)
      (hat : s.call = .pollWorker destructor lLockProtect)
      (hactive : s.mIsWorkerThreadActive = true) :
      CallStep { s with call := .sleep destructor lLockProtect }
  | workerOver (destructor : Bool) (lLockProtect : ℕ)
      (hat : s.call = .pollWorker destructor lLockProtect)
      (hover : s.mIsWorkerThreadActive = false) :
      CallStep { s with call := .pollDelivery destructor lLockProtect }
  | deliveryActive (destructor : Bool) (lLockProtect : ℕ)
      (hat : s.call = .pollDelivery destructor lLockProtect)
      (hactive : s.mIsDeliveryThreadActive = true) :
      CallStep { s with call := .sleep destructor lLockProtect }
  | stopped (destructor : Bool) (lLockProtect : ℕ)
      (hat : s.call = .pollDelivery destructor lLockProtect)
      (hover : s.mIsDeliveryThreadActive = false) : CallStep (s.stopReturns destructor .noError)
  | givesUp (destructor : Bool) (lLockProtect : ℕ)
      (hat : s.call = .sleep destructor lLockProtect) (hlast : lLockProtect - 1 = 0) :
      CallStep (s.stopReturns destructor .failedStoppingReceiver)
  | pollsAgain (destructor : Bool) (lLockProtect : ℕ)
      (hat : s.call = .sleep destructor lLockProtect) (hmore : lLockProtect - 1 ≠ 0) :
      CallStep { s with call := .pollWorker destructor (lLockProtect - 1) }
  | asks (hat : s.call = .activeTest) (hactive : s.handOff.mThreadActive = true) :
      CallStep { s with call := .signal true }
  | skips (hat : s.call = .activeTest) (hstopped : s.handOff.mThreadActive = false) :
      CallStep { s with call := .deleteBuckets }
  | deletes (hat : s.call = .deleteBuckets) : CallStep { s with call := .destroyed }
  | isOver (hat : s.call = .destroyed) : CallStep s

/-- **A call makes no other steps.** -/
theorem ThreadedReceiver.callStep_cases : s.CallStep s.callStep := by
  unfold callStep
  split
  case h_1 hat => exact .idle hat
  case h_2 a hat => exact .reads a hat
  case h_3 a active hat =>
    split
    case isTrue hnot =>
      refine .refuses a active hat ?_
      cases active with
      | false => exact Or.inl rfl
      | true => exact Or.inr (by simpa using hnot)
    case isFalse hboth =>
      obtain ⟨rfl, hactive⟩ := not_not.mp hboth
      split
      case isTrue hunpacks => exact .enters a hat hactive hunpacks
      case isFalse hunpacks => exact .answers a hat hactive (by simpa using hunpacks)
  case h_4 a hat =>
    split
    case isTrue hfree => exact .locks a hat hfree
    case isFalse hheld => exact .waits a hat hheld
  case h_5 a hat => exact .unpacks a hat _ rfl
  case h_6 a lMessage hat => exact .unlocks a lMessage hat
  case h_7 destructor hat => exact .signals destructor hat
  case h_8 destructor n hat =>
    split
    case isTrue hactive => exact .workerActive destructor n hat hactive
    case isFalse hover => exact .workerOver destructor n hat (by simpa using hover)
  case h_9 destructor n hat =>
    split
    case isTrue hactive => exact .deliveryActive destructor n hat hactive
    case isFalse hover => exact .stopped destructor n hat (by simpa using hover)
  case h_10 destructor n hat =>
    split
    case isTrue hlast => exact .givesUp destructor n hat hlast
    case isFalse hmore => exact .pollsAgain destructor n hat hmore
  case h_11 hat =>
    split
    case isTrue hactive => exact .asks hat hactive
    case isFalse hstopped => exact .skips hat (by simpa using hstopped)
  case h_12 hat => exact .deletes hat
  case h_13 hat => exact .isOver hat

/-- The action is that a call begins. -/
def ThreadedAction.isCall : ThreadedAction τ → Bool
  | .receiveFragment _ | .stopReceiver | .destroy => true
  | _ => false

/-- A call that may begin. -/
inductive ThreadedReceiver.Begins : CallAt τ → Prop where
  | receiveFragment (a : Arrival τ) : Begins (.readWorkerActive a)
  | stopReceiver : Begins (.signal false)
  | destroy : Begins .activeTest

/-- The steps, by thread. -/
inductive ThreadedReceiver.Steps : ThreadedAction τ → ThreadedReceiver τ → Prop where
  | begins (action : ThreadedAction τ) (hcall : action.isCall = true) (c : CallAt τ)
      (hc : Begins c) (hat : s.call = .outside) : Steps action { s with call := c }
  | busy (action : ThreadedAction τ) (hcall : action.isCall = true) (hat : s.call ≠ .outside) :
      Steps action s
  | call (s' : ThreadedReceiver τ) (h : s.CallStep s') : Steps .call s'
  | receiverWorker (now : ℤ) (s' : ThreadedReceiver τ) (h : s.WorkerStep now s') :
      Steps (.receiverWorker now) s'
  | deliveryWorker (spuriously : Bool) (s' : ThreadedReceiver τ)
      (h : s.DeliveryStep spuriously s') : Steps (.deliveryWorker spuriously) s'

/-- A call begins, or it finds `mReceiveMtx` taken. -/
private theorem ThreadedReceiver.begins_steps {action : ThreadedAction τ}
    (hcall : action.isCall = true) {c : CallAt τ} (hc : Begins c) :
    s.Steps action (s.begins c) := by
  unfold begins
  split
  case h_1 hat => exact .begins action hcall c hc hat
  case h_2 hat => exact .busy action hcall hat

/-- **Nothing else happens.** -/
theorem ThreadedReceiver.step_cases (action : ThreadedAction τ) :
    s.Steps action (s.step action) := by
  cases action with
  | receiveFragment a => exact s.begins_steps rfl (.receiveFragment a)
  | stopReceiver => exact s.begins_steps rfl .stopReceiver
  | destroy => exact s.begins_steps rfl .destroy
  | call => exact .call _ s.callStep_cases
  | receiverWorker now => exact .receiverWorker now _ (s.receiverWorkerStep_cases now)
  | deliveryWorker spuriously =>
    exact .deliveryWorker spuriously _ (s.deliveryWorkerStep_cases spuriously)

end Steps

/-! ## §5 The locks -/

/-- `receiverWorker` is inside its section of `mNetMtx`. -/
def WorkerAt.holdsNet : WorkerAt → Bool
  | .emptyTest | .walk _ _ | .push _ _ _ | .erase _ | .unlockNet => true
  | _ => false

/-- The call is inside its section of `mNetMtx`. -/
def CallAt.holdsNet : CallAt τ → Bool
  | .unpack _ | .unlockNet _ _ => true
  | _ => false

/-- **The invariant of the locks**: a thread inside a section holds its mutex, and the parts of the
    hand-over run inside the statements that they belong to. -/
structure ThreadedReceiver.Safe (s : ThreadedReceiver τ) : Prop where
  handOff : s.handOff.Safe
  workerNet : s.mNetMtx = some .receiverWorker ↔ s.receiverWorker.holdsNet = true
  callNet : s.mNetMtx = some .receiveFragment ↔ s.call.holdsNet = true
  /-- A push is under way only while `receiverWorker` makes one, -/
  pushing : s.handOff.receiverWorker ≠ .outside →
    ∃ frame more rest ids, s.receiverWorker = .push (frame :: more) rest ids
  /-- and it pushes the superframe that is next. -/
  pushes : ∀ frame, s.handOff.receiverWorker = .pushBack frame →
    ∃ more rest ids, s.receiverWorker = .push (frame :: more) rest ids
  /-- A signal to stop is under way only while a call sends one. -/
  signalling : s.handOff.stopReceiver ≠ .outside → ∃ destructor, s.call = .signal destructor

/-- At the start nothing is locked. -/
theorem ThreadedReceiver.safe_new (B H : UInt32) : (ThreadedReceiver.new τ B H).Safe where
  handOff := HandOff.safe_start
  workerNet := by simp [new, WorkerAt.holdsNet]
  callNet := by simp [new, CallAt.holdsNet]
  pushing := fun h => absurd rfl h
  pushes := fun frame h => absurd h (by simp [new])
  signalling := fun h => absurd rfl h

section HandOff

variable (s : HandOff)

/-- The three threads have their own places in the hand-over. -/
theorem HandOff.receiverWorkerStep_others (frame : SuperFrame) :
    (s.receiverWorkerStep frame).stopReceiver = s.stopReceiver ∧
      (s.receiverWorkerStep frame).deliveryWorker = s.deliveryWorker ∧
      (s.receiverWorkerStep frame).mThreadActive = s.mThreadActive ∧
      (s.receiverWorkerStep frame).stopped = s.stopped ∧
      (s.receiverWorkerStep frame).delivered = s.delivered := by
  unfold receiverWorkerStep
  cases s.receiverWorker with
  | outside =>
    simp only []
    split
    · exact ⟨rfl, rfl, rfl, rfl, rfl⟩
    · exact ⟨rfl, rfl, rfl, rfl, rfl⟩
  | pushBack frame => exact ⟨rfl, rfl, rfl, rfl, rfl⟩
  | setReady => exact ⟨rfl, rfl, rfl, rfl, rfl⟩
  | unlock => exact ⟨rfl, rfl, rfl, rfl, rfl⟩
  | notifyOne => exact ⟨rfl, rfl, rfl, rfl, rfl⟩

theorem HandOff.deliveryWorkerStep_others (spuriously : Bool) :
    (s.deliveryWorkerStep spuriously).receiverWorker = s.receiverWorker ∧
      (s.deliveryWorkerStep spuriously).stopReceiver = s.stopReceiver ∧
      (s.deliveryWorkerStep spuriously).mThreadActive = s.mThreadActive ∧
      (s.deliveryWorkerStep spuriously).stopped = s.stopped ∧
      (s.deliveryWorkerStep spuriously).pushed = s.pushed := by
  unfold deliveryWorkerStep
  cases s.deliveryWorker with
  | lock =>
    simp only []
    split
    · exact ⟨rfl, rfl, rfl, rfl, rfl⟩
    · exact ⟨rfl, rfl, rfl, rfl, rfl⟩
  | waitTest =>
    simp only []
    split
    · exact ⟨rfl, rfl, rfl, rfl, rfl⟩
    · exact ⟨rfl, rfl, rfl, rfl, rfl⟩
  | waiting =>
    simp only []
    split
    · exact ⟨rfl, rfl, rfl, rfl, rfl⟩
    · exact ⟨rfl, rfl, rfl, rfl, rfl⟩
  | loopTest => exact ⟨rfl, rfl, rfl, rfl, rfl⟩
  | popFront => exact ⟨rfl, rfl, rfl, rfl, rfl⟩
  | clearReady x => exact ⟨rfl, rfl, rfl, rfl, rfl⟩
  | unlock x => exact ⟨rfl, rfl, rfl, rfl, rfl⟩
  | receiveCallback x => exact ⟨rfl, rfl, rfl, rfl, rfl⟩
  | finished => exact ⟨rfl, rfl, rfl, rfl, rfl⟩

theorem HandOff.stopReceiverStep_others :
    s.stopReceiverStep.receiverWorker = s.receiverWorker ∧
      s.stopReceiverStep.deliveryWorker = s.deliveryWorker ∧
      s.stopReceiverStep.pushed = s.pushed ∧ s.stopReceiverStep.delivered = s.delivered := by
  unfold stopReceiverStep
  cases s.stopReceiver with
  | lock =>
    simp only []
    split
    · exact ⟨rfl, rfl, rfl, rfl⟩
    · exact ⟨rfl, rfl, rfl, rfl⟩
  | outside => exact ⟨rfl, rfl, rfl, rfl⟩
  | setReady => exact ⟨rfl, rfl, rfl, rfl⟩
  | unlock => exact ⟨rfl, rfl, rfl, rfl⟩
  | notifyOne => exact ⟨rfl, rfl, rfl, rfl⟩

/-- A push goes on unless it made its last statement, and it begins with the superframe it was
    given. -/
theorem HandOff.receiverWorkerStep_push (frame : SuperFrame) :
    ((s.receiverWorkerStep frame).receiverWorker ≠ .outside → s.endsPush = false) ∧
      ∀ frame', (s.receiverWorkerStep frame).receiverWorker = .pushBack frame' →
        s.endsPush = false ∧ frame = frame' := by
  unfold receiverWorkerStep endsPush
  cases hat : s.receiverWorker with
  | outside =>
    simp only []
    split
    · simp
    · simp [hat]
  | pushBack frame => simp
  | setReady => simp
  | unlock => simp
  | notifyOne => simp

/-- A signal goes on unless it made its last statement. -/
theorem HandOff.stopReceiverStep_signal :
    s.stopReceiverStep.stopReceiver ≠ .outside → s.endsSignal = false := by
  unfold stopReceiverStep endsSignal
  cases s.stopReceiver with
  | outside => simp
  | lock => simp
  | setReady => simp
  | unlock => simp
  | notifyOne => simp

end HandOff

namespace ThreadedReceiver.Safe

variable {s : ThreadedReceiver τ}

/-- Outside of the push statement no push is under way. -/
theorem noPush (h : s.Safe)
    (hat : ∀ frame more rest ids, s.receiverWorker ≠ .push (frame :: more) rest ids) :
    s.handOff.receiverWorker = .outside := by
  by_contra hsome
  obtain ⟨frame, more, rest, ids, hpush⟩ := h.pushing hsome
  exact hat frame more rest ids hpush

/-- A signal is under way only in the signal statement. -/
theorem noSignal (h : s.Safe) (hat : ∀ destructor, s.call ≠ .signal destructor) :
    s.handOff.stopReceiver = .outside := by
  by_contra hsome
  obtain ⟨destructor, hsignal⟩ := h.signalling hsome
  exact hat destructor hsignal

/-- `receiverWorker` moves on between two pushes, on its side of `mNetMtx`. -/
private theorem workerMoves (h : s.Safe)
    (hat : ∀ frame more rest ids, s.receiverWorker ≠ .push (frame :: more) rest ids)
    {next : WorkerAt} (hside : next.holdsNet = s.receiverWorker.holdsNet) (receiver : Receiver)
    (clock : WorkerClock) (active : Bool) :
    ThreadedReceiver.Safe
      { s with
        receiver, clock, receiverWorker := next, mIsWorkerThreadActive := active } :=
  { h with
    workerNet := by
      show s.mNetMtx = some .receiverWorker ↔ next.holdsNet = true
      rw [hside]
      exact h.workerNet
    pushing := fun hsome => absurd (h.noPush hat) hsome
    pushes := fun frame hback => absurd (h.noPush hat) (by
      have hback : s.handOff.receiverWorker = .pushBack frame := hback
      rw [hback]
      simp) }

/-- **A step of `receiverWorker` keeps the invariant.** -/
theorem workerStep (h : s.Safe) {now : ℤ} {s' : ThreadedReceiver τ} (hstep : s.WorkerStep now s') :
    s'.Safe := by
  cases hstep with
  | begins hat => exact h.workerMoves (by simp [hat]) (by rw [hat]; rfl) _ _ _
  | goesOn hat hactive => exact h.workerMoves (by simp [hat]) (by rw [hat]; rfl) _ _ _
  | ends hat hstopped => exact h.workerMoves (by simp [hat]) (by rw [hat]; rfl) _ _ _
  | sleeps hat => exact h.workerMoves (by simp [hat]) (by rw [hat]; rfl) _ _ _
  | locks hat hfree =>
    -- the mutex was free, so the call is not in its section
    have hnone := h.noPush (by simp [hat])
    exact { h with
      workerNet := iff_of_true rfl rfl
      callNet := by simpa [hfree] using h.callNet
      pushing := fun hsome => absurd hnone hsome
      pushes := fun frame hback => absurd (hnone.symm.trans hback) (by simp) }
  | waits hat hheld => exact h
  | skips hat hempty => exact h.workerMoves (by simp [hat]) (by rw [hat]; rfl) _ _ _
  | starts hat hsome => exact h.workerMoves (by simp [hat]) (by rw [hat]; rfl) _ _ _
  | round e rest ids hat round hround =>
    exact h.workerMoves (by simp [hat]) (by rw [hat]; rfl) _ _ _
  | walked ids hat => exact h.workerMoves (by simp [hat]) (by rw [hat]; rfl) _ _ _
  | pushes frame more rest ids hat =>
    obtain ⟨hstop, -⟩ := s.handOff.receiverWorkerStep_others frame
    -- the statement goes on until the push has made its last step
    have hpush := s.handOff.receiverWorkerStep_push frame
    exact { h with
      handOff := h.handOff.receiverWorkerStep frame
      workerNet := iff_of_true (h.workerNet.mpr (by rw [hat]; rfl)) rfl
      pushing := fun hsome => ⟨frame, more, rest, ids, by simp [hpush.1 hsome]⟩
      pushes := fun frame' hback => by
        obtain ⟨hends, hsame⟩ := hpush.2 frame' hback
        obtain rfl := hsame
        exact ⟨more, rest, ids, by simp [hends]⟩
      signalling := fun hsome => h.signalling (by rwa [← hstop]) }
  | pushed rest ids hat => exact h.workerMoves (by simp [hat]) (by rw [hat]; rfl) _ _ _
  | erases id rest hat => exact h.workerMoves (by simp [hat]) (by rw [hat]; rfl) _ _ _
  | erased hat => exact h.workerMoves (by simp [hat]) (by rw [hat]; rfl) _ _ _
  | unlocks hat =>
    have hnone := h.noPush (by simp [hat])
    -- the worker had the mutex, so the call does not have it
    have hheld : s.mNetMtx = some .receiverWorker := h.workerNet.mpr (by rw [hat]; rfl)
    exact { h with
      workerNet := by simp [WorkerAt.holdsNet]
      callNet := by simpa [hheld] using h.callNet
      pushing := fun hsome => absurd hnone hsome
      pushes := fun frame hback => absurd (hnone.symm.trans hback) (by simp) }
  | clears hat => exact h.workerMoves (by simp [hat]) (by rw [hat]; rfl) _ _ _
  | isOver hat => exact h

/-- A step of `deliveryWorker` keeps the invariant. -/
theorem deliveryStep (h : s.Safe) {spuriously : Bool} {s' : ThreadedReceiver τ}
    (hstep : s.DeliveryStep spuriously s') : s'.Safe := by
  obtain ⟨hworker, hstop, -⟩ := s.handOff.deliveryWorkerStep_others spuriously
  cases hstep with
  | works hat =>
    exact { h with
      handOff := h.handOff.deliveryWorkerStep spuriously
      pushing := fun hsome => h.pushing (by rwa [← hworker])
      pushes := fun frame hback => h.pushes frame (by rwa [← hworker])
      signalling := fun hsome => h.signalling (by rwa [← hstop]) }
  | clears hat => exact { h with }

/-- The call moves on between two signals, on its side of `mNetMtx`. -/
private theorem callMoves (h : s.Safe) (hat : ∀ destructor, s.call ≠ .signal destructor)
    {next : CallAt τ} (hside : next.holdsNet = s.call.holdsNet) (receiver : Receiver)
    (returned : List (Return τ)) :
    ThreadedReceiver.Safe { s with receiver, call := next, returned } :=
  { h with
    callNet := by
      show s.mNetMtx = some .receiveFragment ↔ next.holdsNet = true
      rw [hside]
      exact h.callNet
    signalling := fun hsome => absurd (h.noSignal hat) hsome }

/-- **A step of a call keeps the invariant.** -/
theorem callStep (h : s.Safe) {s' : ThreadedReceiver τ} (hstep : s.CallStep s') : s'.Safe := by
  cases hstep with
  | idle hat => exact h
  | reads a hat => exact h.callMoves (by simp [hat]) (by rw [hat]; rfl) _ _
  | refuses a active hat hover => exact h.callMoves (by simp [hat]) (by rw [hat]; rfl) _ _
  | enters a hat hactive hunpacks => exact h.callMoves (by simp [hat]) (by rw [hat]; rfl) _ _
  | answers a hat hactive hunpacks => exact h.callMoves (by simp [hat]) (by rw [hat]; rfl) _ _
  | locks a hat hfree =>
    exact { h with
      workerNet := by simpa [hfree] using h.workerNet
      callNet := iff_of_true rfl rfl
      signalling := fun hsome => absurd (h.noSignal (by simp [hat])) hsome }
  | waits a hat hheld => exact h
  | unpacks a hat out hout => exact h.callMoves (by simp [hat]) (by rw [hat]; rfl) _ _
  | unlocks a m hat =>
    -- the call had the mutex, so the worker does not have it
    have hheld : s.mNetMtx = some .receiveFragment := h.callNet.mpr (by rw [hat]; rfl)
    exact { h with
      workerNet := by simpa [hheld, ThreadedReceiver.receiveReturns] using h.workerNet
      callNet := by simp [ThreadedReceiver.receiveReturns, CallAt.holdsNet]
      signalling := fun hsome => absurd (h.noSignal (by simp [hat])) hsome }
  | signals d hat =>
    obtain ⟨hworker, -⟩ := s.handOff.stopReceiverStep_others
    have hsignal := s.handOff.stopReceiverStep_signal
    exact { h with
      handOff := h.handOff.stopReceiverStep
      -- neither the signal nor the poll behind it is in the section of `mNetMtx`
      callNet := by
        have hcall := h.callNet
        rw [hat] at hcall
        refine hcall.trans ?_
        show _ ↔ CallAt.holdsNet (if s.handOff.endsSignal then _ else _) = true
        split
        · simp [CallAt.holdsNet]
        · simp [CallAt.holdsNet]
      pushing := fun hsome => h.pushing (by rwa [← hworker])
      pushes := fun frame hback => h.pushes frame (by rwa [← hworker])
      signalling := fun hsome => ⟨d, by simp [hsignal hsome]⟩ }
  | workerActive d n hat hactive => exact h.callMoves (by simp [hat]) (by rw [hat]; rfl) _ _
  | workerOver d n hat hover => exact h.callMoves (by simp [hat]) (by rw [hat]; rfl) _ _
  | deliveryActive d n hat hactive => exact h.callMoves (by simp [hat]) (by rw [hat]; rfl) _ _
  | stopped d n hat hover =>
    refine h.callMoves (by simp [hat]) ?_ _ _
    rw [hat]
    cases d with
    | true => rfl
    | false => rfl
  | givesUp d n hat hlast =>
    refine h.callMoves (by simp [hat]) ?_ _ _
    rw [hat]
    cases d with
    | true => rfl
    | false => rfl
  | pollsAgain d n hat hmore => exact h.callMoves (by simp [hat]) (by rw [hat]; rfl) _ _
  | asks hat hactive =>
    have hnone := h.noSignal (by simp [hat])
    have hcall := h.callNet
    rw [hat] at hcall
    exact { h with
      callNet := hcall
      signalling := fun hsome => absurd hnone hsome }
  | skips hat hstopped => exact h.callMoves (by simp [hat]) (by rw [hat]; rfl) _ _
  | deletes hat => exact h.callMoves (by simp [hat]) (by rw [hat]; rfl) _ _
  | isOver hat => exact h

/-- **Step lemma.** -/
theorem step (h : s.Safe) (action : ThreadedAction τ) : (s.step action).Safe := by
  have hstep := s.step_cases action
  generalize s.step action = s' at hstep ⊢
  cases hstep with
  | begins action hbegins c hc hat =>
    have hcall := h.callNet
    rw [hat] at hcall
    have hnone := h.noSignal (by simp [hat])
    refine { h with
      callNet := hcall.trans ?_
      signalling := fun hsome => absurd hnone hsome }
    cases hc with
    | receiveFragment a => exact Iff.rfl
    | stopReceiver => exact Iff.rfl
    | destroy => exact Iff.rfl
  | busy action hbegins hat => exact h
  | call s' hstep => exact h.callStep hstep
  | receiverWorker now s' hstep => exact h.workerStep hstep
  | deliveryWorker spuriously s' hstep => exact h.deliveryStep hstep

end ThreadedReceiver.Safe

end ElasticFrame.Threads
