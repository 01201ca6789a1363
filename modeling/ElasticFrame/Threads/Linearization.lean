import ElasticFrame.Lib.Simulation
import ElasticFrame.Receiver.Refusal
import ElasticFrame.Threads.ThreadedReceiver

/-!
# The Threads Agree with One Sequential Receiver

However the steps of the threads interleave, there is one order of whole calls and whole passes
(`sequential`) such that the receiver, what the callers are told and what comes out of the queue are
those of a sequential receiver that serves them in this order. A call takes its place when it
unpacks, a pass when it has taken `mNetMtx`.

In the middle of a pass the receiver is half changed, and some of what the pass hands out is not in
the queue yet. `ThreadedReceiver.remains` is what is still to be done; the invariant `Linearized`
compares the sequential receiver with that. Every result on the runs of `receiverMachine` is thereby
a result on the threads.
-/

namespace ElasticFrame.Threads

open ElasticFrame.Lib

variable {τ : Type}

/-! ## §1 The sequential order -/

/-- The call or pass that takes its place in a step. -/
def ThreadedReceiver.answer (s : ThreadedReceiver τ) : ThreadedAction τ → List (Event τ)
  | .call =>
      match s.call with
      | .readDeliveryActive a mIsWorkerThreadActive =>
          if mIsWorkerThreadActive ∧ s.mIsDeliveryThreadActive ∧ ¬ unpacks a.pSubPacket then
            [.receiveFragment a]
          else []
      | .unpack a => [.receiveFragment a]
      | _ => []
  | .receiverWorker _ =>
      match s.receiverWorker with
      | .emptyTest => [.receiverWorkerPass s.clock.lTimeNow]
      | _ => []
  | _ => []

/-- A call does not take its place when it begins. -/
theorem ThreadedReceiver.answer_of_isCall (s : ThreadedReceiver τ) {action : ThreadedAction τ}
    (hcall : action.isCall = true) : s.answer action = [] := by
  cases action <;> simp_all [ThreadedAction.isCall, answer]

/-- The calls and passes of a schedule, one after the other. -/
def sequential (B H : UInt32) (schedule : List (ThreadedAction τ)) : List (Event τ) :=
  (threadedMachine τ).answers ThreadedReceiver.answer (.new τ B H) schedule

/-- The times of the passes among these events. -/
def passTimes (es : List (Event τ)) : List ℤ :=
  es.filterMap fun e => match e with
    | .receiverWorkerPass lTimeNow => some lTimeNow
    | _ => none

theorem passTimes_append (es es' : List (Event τ)) :
    passTimes (es ++ es') = passTimes es ++ passTimes es' := List.filterMap_append ..

/-- No pass takes its place in a step of a call. -/
theorem ThreadedReceiver.answer_call (s : ThreadedReceiver τ) :
    passTimes (s.answer .call) = [] := by
  simp only [answer]
  split
  · split
    · rfl
    · rfl
  · rfl
  · rfl

/-- A pass takes its place when the worker looks whether the map is empty. -/
theorem ThreadedReceiver.answer_emptyTest {s : ThreadedReceiver τ} {now : ℤ}
    (hat : s.receiverWorker = .emptyTest) :
    s.answer (.receiverWorker now) = [.receiverWorkerPass s.clock.lTimeNow] := by
  simp [answer, hat]

/-- The calls in a transcript, with their messages. -/
def callsOf (es : List (Event τ × Report τ)) : List (Arrival τ × Option ElasticFrameMessages) :=
  es.filterMap fun e => match e.1 with
    | .receiveFragment a => some (a, e.2.message)
    | _ => none

/-- The calls that came back and were served. -/
def Return.served : Return τ → Option (Arrival τ × Option ElasticFrameMessages)
  | .receiveFragment a lMessage =>
      if lMessage = .receiverNotRunning then none else some (a, some lMessage)
  | .stopReceiver _ => none

/-- The call that was served and has not come back. -/
def CallAt.served : CallAt τ → List (Arrival τ × Option ElasticFrameMessages)
  | .unlockNet a lMessage => (Return.receiveFragment a lMessage).served.toList
  | _ => []

/-! ## §2 What remains of a pass -/

/-- The superframe of the push under way is in the queue. -/
def HandOff.hasPushed (s : HandOff) : Bool :=
  match s.receiverWorker with
  | .setReady | .unlock | .notifyOne => true
  | _ => false

/-- The superframes of these that are not in the queue. -/
def HandOff.unpushed (s : HandOff) (frames : List SuperFrame) : List SuperFrame :=
  if s.hasPushed then frames.tail else frames

/-- What the worker has still to do when it is there: the receiver afterwards, and what it has still
    to push. -/
def ThreadedReceiver.remains (s : ThreadedReceiver τ) : Receiver × List SuperFrame :=
  match s.receiverWorker with
  | .walk rest lDeleteList =>
      let left := s.receiver.restOfPass s.clock.lTimeNow rest lDeleteList
      (left.receiver, left.handed.map Handed.frame)
  | .push frames rest lDeleteList =>
      let left := s.receiver.restOfPass s.clock.lTimeNow rest lDeleteList
      (left.receiver, s.handOff.unpushed frames ++ left.handed.map Handed.frame)
  | .erase lDeleteList => (s.receiver.deleteList lDeleteList, [])
  | _ => (s.receiver, [])

/-- Outside of its section nothing remains. -/
theorem ThreadedReceiver.remains_of_not_holdsNet {s : ThreadedReceiver τ}
    (hat : s.receiverWorker.holdsNet = false) : s.remains = (s.receiver, []) := by
  unfold remains
  cases hworker : s.receiverWorker <;> simp_all [WorkerAt.holdsNet]

/-- What remains depends on the worker, and on whether the push under way has pushed. -/
theorem ThreadedReceiver.remains_congr {s s' : ThreadedReceiver τ}
    (hreceiver : s'.receiver = s.receiver) (hat : s'.receiverWorker = s.receiverWorker)
    (hclock : s'.clock = s.clock)
    (hpush : s'.handOff.receiverWorker = s.handOff.receiverWorker) : s'.remains = s.remains := by
  unfold remains HandOff.unpushed HandOff.hasPushed
  rw [hreceiver, hat, hclock, hpush]

/-- A step of a push takes the superframe out of what remains when it puts it into the queue. -/
theorem HandOff.receiverWorkerStep_unpushed (s : HandOff) (frame : SuperFrame)
    (more : List SuperFrame) (hsame : ∀ x, s.receiverWorker = .pushBack x → x = frame) :
    (s.receiverWorkerStep frame).pushed ++ (s.receiverWorkerStep frame).unpushed
        (if s.endsPush then more else frame :: more) =
      s.pushed ++ s.unpushed (frame :: more) := by
  unfold receiverWorkerStep unpushed hasPushed endsPush
  cases hat : s.receiverWorker with
  | outside =>
    simp only []
    split
    · rfl
    · simp [hat]
  | pushBack x =>
    obtain rfl := hsame x hat
    simp
  | setReady => rfl
  | unlock => rfl
  | notifyOne => rfl

/-! ## §3 What a call does in threaded mode -/

section Call

/-- What a call that is not unpacked gives back: its packet decides, and nothing changes. -/
theorem receive_of_not_unpacks {p : List UInt8} (hnot : unpacks p = false)
    (lFromSource : UInt8) (amb : Ambient) :
    ∃ message ∈ [ElasticFrameMessages.type0Frame, .frameSizeMismatch, .unknownFrameType],
      ∀ r : Receiver, r.Running →
        r.receiveFragmentFromPtr p lFromSource amb =
          { message, receiver := r, handed := [], accesses := [.packet 0 1 p.length] } := by
  have hval : Frametype.type0.value = 0 ∧ Frametype.type1.value = 1 ∧
      Frametype.type2.value = 2 ∧ Frametype.type3.value = 3 := ⟨rfl, rfl, rfl, rfl⟩
  obtain ⟨hv0, hv1, hv2, hv3⟩ := hval
  simp only [unpacks, hv1, hv2, hv3, Bool.or_eq_false_iff, Bool.and_eq_false_iff,
    beq_eq_false_iff_ne, decide_eq_false_iff_not, not_le] at hnot
  obtain ⟨⟨h1, h2⟩, h3⟩ := hnot
  unfold Receiver.receiveFragmentFromPtr Receiver.Running
  generalize byteAt p 0 &&& 0x0f = kind at h1 h2 h3
  simp only [hv0, hv1, hv2, hv3]
  -- by its kind, and a kind that is unpacked by its length
  by_cases hkind : kind ∈ [1, 2, 3]
  · refine ⟨.frameSizeMismatch, by simp, fun r hrunning => ?_⟩
    rw [if_neg hrunning]
    simp only [List.mem_cons, List.not_mem_nil, or_false] at hkind
    rcases hkind with rfl | rfl | rfl
    · simp [h1.resolve_left (by simp)]
    · simp [h2.resolve_left (by simp)]
    · simp [h3.resolve_left (by simp)]
  · simp only [List.mem_cons, List.not_mem_nil, or_false, not_or] at hkind
    by_cases h0 : kind = 0
    · refine ⟨.type0Frame, by simp, fun r hrunning => ?_⟩
      rw [if_neg hrunning, if_pos h0]
    · refine ⟨.unknownFrameType, by simp, fun r hrunning => ?_⟩
      rw [if_neg hrunning, if_neg h0, if_neg hkind.1, if_neg hkind.2.1, if_neg hkind.2.2]

/-- In threaded mode a call hands nothing out, keeps the settings, and is served. -/
theorem receive_threaded {B H : UInt32} {r : Receiver} (h : r.Configured B H .THREADED)
    (p : List UInt8) (lFromSource : UInt8) (amb : Ambient) :
    (r.receiveFragmentFromPtr p lFromSource amb).handed = [] ∧
      (r.receiveFragmentFromPtr p lFromSource amb).receiver.Configured B H .THREADED ∧
      (r.receiveFragmentFromPtr p lFromSource amb).message ≠ .receiverNotRunning := by
  -- no pass follows the unpacking
  have hcomplete : ∀ (u : Unpacked), u.receiver.Configured B H .THREADED →
      (Receiver.completeCall u amb).receiver = u.receiver ∧
        (Receiver.completeCall u amb).handed = [] := by
    intro u hu
    have hmode : u.receiver.mCurrentMode ≠ .RUN_TO_COMPLETION := by
      rw [hu.currentMode]
      decide
    simp [Receiver.completeCall, Receiver.runIfToCompletion, hmode]
  have hstep := r.receiveFragmentFromPtr_step p lFromSource amb
  generalize r.receiveFragmentFromPtr p lFromSource amb = out at hstep ⊢
  cases hstep with
  | refused message accesses hmessage haccesses =>
    refine ⟨rfl, h, ?_⟩
    rcases hmessage with ⟨-, hstopped⟩ | ⟨-, hmem⟩
    · exact absurd h.running hstopped
    · rintro rfl
      simp at hmem
  | cut hpacket hsize =>
    obtain ⟨hreceiver, hhanded⟩ := hcomplete
      { message := .type2FrameOutOfBounds
        receiver := r
        accesses := [.packet 0 1 p.length, .packet 0 ElasticFrameType2.size p.length] } h
    exact ⟨hhanded, by rw [hreceiver]; exact h, by simp [Receiver.completeCall]⟩
  | fragment f header hpacket =>
    have hunpack := h.unpack f lFromSource amb
    obtain ⟨hreceiver, hhanded⟩ := hcomplete
      ((r.unpackFragment f lFromSource amb).reading
        (Access.packet 0 1 p.length :: packetReads p header f)) hunpack
    refine ⟨hhanded, by rw [hreceiver]; exact hunpack, ?_⟩
    show (r.unpackFragment f lFromSource amb).message ≠ .receiverNotRunning
    have hkind := r.unpackFragment_step f lFromSource amb
    generalize r.unpackFragment f lFromSource amb = u at hkind ⊢
    cases hkind with
    | refused => split <;> simp
    | _ => simp

end Call

/-! ## §4 The invariant -/

section Linearization

variable (B H : UInt32)

/-- **The sequential receiver is where the worker will be at the end of its pass.** -/
structure Linearized (es : List (Event τ)) (s : ThreadedReceiver τ) : Prop where
  safe : s.Safe
  configured : s.receiver.Configured B H .THREADED
  receiver : ((receiverMachine τ).run (.fresh τ B H .THREADED) es).receiver = s.remains.1
  frames : framesOf ((receiverMachine τ).outputs (.fresh τ B H .THREADED) es) =
    s.handOff.pushed ++ s.remains.2
  calls : callsOf ((receiverMachine τ).transcript (.fresh τ B H .THREADED) es) =
    s.returned.filterMap Return.served ++ s.call.served

variable {B H} {es : List (Event τ)} {s : ThreadedReceiver τ}

/-- At the start nothing was served. -/
theorem linearized_new : Linearized B H [] (ThreadedReceiver.new τ B H) where
  safe := ThreadedReceiver.safe_new B H
  configured := Receiver.configured_new B H .THREADED
  receiver := rfl
  frames := rfl
  calls := rfl

/-- Outside of a pass the two receivers agree, and everything is in the queue. -/
theorem Linearized.agrees (h : Linearized B H es s) (hremains : s.remains = (s.receiver, [])) :
    ((receiverMachine τ).run (.fresh τ B H .THREADED) es).receiver = s.receiver ∧
      framesOf ((receiverMachine τ).outputs (.fresh τ B H .THREADED) es) = s.handOff.pushed := by
  constructor
  · rw [h.receiver, hremains]
  · rw [h.frames, hremains, List.append_nil]

/-- A pass takes its place. -/
private theorem Linearized.pass (h : Linearized B H es s) {s' : ThreadedReceiver τ}
    {lTimeNow : ℤ} (hremains : s.remains = (s.receiver, []))
    (hsafe : s'.Safe) (hconf : s'.receiver.Configured B H .THREADED)
    (hpass : s'.remains = ((s.receiver.receiverWorkerPass lTimeNow).receiver,
      (s.receiver.receiverWorkerPass lTimeNow).handed.map Handed.frame))
    (hpushed : s'.handOff.pushed = s.handOff.pushed) (hcall : s'.call = s.call)
    (hreturned : s'.returned = s.returned) :
    Linearized B H (es ++ [.receiverWorkerPass lTimeNow]) s' := by
  obtain ⟨hreceiver, hframes⟩ := h.agrees hremains
  have hstep : (receiverMachine τ).step ((receiverMachine τ).run (.fresh τ B H .THREADED) es)
      (.receiverWorkerPass lTimeNow) =
        (((receiverMachine τ).run (.fresh τ B H .THREADED) es).delivered
          (s.receiver.receiverWorkerPass lTimeNow),
        { handed := ((receiverMachine τ).run (.fresh τ B H .THREADED) es).handOvers lTimeNow
            (s.receiver.receiverWorkerPass lTimeNow).handed }) := by
    rw [← hreceiver]
    rfl
  refine ⟨hsafe, hconf, ?_, ?_, ?_⟩
  · rw [Machine.run_concat, hstep, hpass]
    rfl
  · rw [Machine.outputs_concat, framesOf_concat, hframes, hstep, hpass, hpushed]
    exact congrArg _ (Traced.handOvers_frames _ _ _)
  · rw [Machine.transcript_concat, callsOf, List.filterMap_append, ← callsOf, h.calls, hcall,
      hreturned]
    exact List.append_nil _

/-- A call takes its place. -/
private theorem Linearized.call (h : Linearized B H es s) {s' : ThreadedReceiver τ}
    {a : Arrival τ} {out : Received} (hout : out =
      ((receiverMachine τ).run (.fresh τ B H .THREADED) es).receiver.receiveFragmentFromPtr
        a.pSubPacket a.lFromSource a.amb)
    (hsafe : s'.Safe) (hconf : s'.receiver.Configured B H .THREADED)
    (hreceiver : s'.remains.1 = out.receiver)
    (hframes : s'.handOff.pushed ++ s'.remains.2 = s.handOff.pushed ++ s.remains.2)
    (hcall : s'.returned.filterMap Return.served ++ s'.call.served =
      s.returned.filterMap Return.served ++ s.call.served ++ [(a, some out.message)]) :
    Linearized B H (es ++ [.receiveFragment a]) s' := by
  have hconfigured := configured_run (τ := τ) B H .THREADED es
  have hnone := (receive_threaded hconfigured a.pSubPacket a.lFromSource a.amb).1
  rw [← hout] at hnone
  refine ⟨hsafe, hconf, ?_, ?_, ?_⟩
  · rw [Machine.run_concat, hreceiver, hout]
    rfl
  · rw [Machine.outputs_concat, framesOf_concat, h.frames, hframes]
    have hhanded : ((receiverMachine τ).step ((receiverMachine τ).run (.fresh τ B H .THREADED) es)
        (.receiveFragment a)).2.handed.map HandOver.frame = out.handed.map Handed.frame := by
      rw [hout]
      exact Traced.handOvers_frames _ _ _
    rw [hhanded, hnone]
    exact List.append_nil _
  · rw [Machine.transcript_concat, callsOf, List.filterMap_append, ← callsOf, h.calls, hcall, hout]
    rfl

/-- Nothing that the sequential receiver sees happens. -/
private theorem Linearized.silent (h : Linearized B H es s) {s' : ThreadedReceiver τ}
    {action : ThreadedAction τ} (hanswer : s.answer action = []) (hsafe : s'.Safe)
    (hconf : s'.receiver.Configured B H .THREADED) (hreceiver : s'.remains.1 = s.remains.1)
    (hframes : s'.handOff.pushed ++ s'.remains.2 = s.handOff.pushed ++ s.remains.2)
    (hcall : s'.returned.filterMap Return.served ++ s'.call.served =
      s.returned.filterMap Return.served ++ s.call.served) :
    Linearized B H (es ++ s.answer action) s' := by
  rw [hanswer, List.append_nil]
  exact
    { safe := hsafe
      configured := hconf
      receiver := h.receiver.trans hreceiver.symm
      frames := h.frames.trans hframes.symm
      calls := h.calls.trans hcall.symm }

/-! ## §5 One step -/

/-- Deleting one entry after the other. -/
private theorem deleteList_cons (r : Receiver) (bucketID : UInt64) (rest : List UInt64) :
    r.deleteList (bucketID :: rest) = (r.deleteList [bucketID]).deleteList rest := by
  simp only [Receiver.deleteList]
  split
  · rfl
  · rfl

private theorem deleteList_configured {r : Receiver} (h : r.Configured B H .THREADED)
    (bucketID : UInt64) : (r.deleteList [bucketID]).Configured B H .THREADED := by
  simp only [Receiver.deleteList]
  split
  · exact ⟨h.bucketTimeoutms, h.holTimeoutms, h.currentMode, h.running⟩
  · exact h

/-- While no push is under way, all superframes of the push statement are still to be pushed. -/
private theorem unpushed_of_outside (hat : s.handOff.receiverWorker = .outside)
    (frames : List SuperFrame) : s.handOff.unpushed frames = frames := by
  simp [HandOff.unpushed, HandOff.hasPushed, hat]

/-- **A step of `receiverWorker`.** -/
theorem Linearized.workerStep (h : Linearized B H es s) {now : ℤ} {s' : ThreadedReceiver τ}
    (hstep : s.WorkerStep now s') :
    Linearized B H (es ++ s.answer (.receiverWorker now)) s' := by
  have hsafe := h.safe.workerStep hstep
  have hconf := h.configured
  cases hstep with
  | begins hat =>
    apply h.silent (by simp [ThreadedReceiver.answer, hat]) hsafe hconf <;>
      simp [ThreadedReceiver.remains, hat]
  | goesOn hat hactive =>
    apply h.silent (by simp [ThreadedReceiver.answer, hat]) hsafe hconf <;>
      simp [ThreadedReceiver.remains, hat]
  | ends hat hstopped =>
    apply h.silent (by simp [ThreadedReceiver.answer, hat]) hsafe hconf <;>
      simp [ThreadedReceiver.remains, hat]
  | sleeps hat =>
    apply h.silent (by simp [ThreadedReceiver.answer, hat]) hsafe hconf <;>
      simp [ThreadedReceiver.remains, hat]
  | locks hat hfree =>
    apply h.silent (by simp [ThreadedReceiver.answer, hat]) hsafe hconf <;>
      simp [ThreadedReceiver.remains, hat]
  | waits hat hheld =>
    exact h.silent (by simp [ThreadedReceiver.answer, hat]) hsafe hconf rfl rfl rfl
  | skips hat hempty =>
    -- a pass over an empty map takes its place all the same
    rw [ThreadedReceiver.answer_emptyTest hat]
    apply h.pass (by simp [ThreadedReceiver.remains, hat]) hsafe hconf _ rfl rfl rfl
    simp [ThreadedReceiver.remains, Receiver.receiverWorkerPass, hempty]
  | starts hat hsome =>
    rw [ThreadedReceiver.answer_emptyTest hat]
    apply h.pass (by simp [ThreadedReceiver.remains, hat]) hsafe hconf _ rfl rfl rfl
    simp only [ThreadedReceiver.remains, Receiver.restOfPass_start _ _ hsome]
  | round e rest ids hat round hround =>
    -- the pass took its place when it began; a round only makes a part of it real
    have hidle := h.safe.noPush (by simp [hat])
    have hrest := s.receiver.restOfPass_round s.clock.lTimeNow e rest ids
    rw [← hround] at hrest
    have hconf' : (s.receiver.endWalk round.1).Configured B H .THREADED :=
      ⟨hconf.bucketTimeoutms, hconf.holTimeoutms, hconf.currentMode, hconf.running⟩
    apply h.silent (by simp [ThreadedReceiver.answer, hat]) hsafe hconf'
    · simp [ThreadedReceiver.remains, hat, hrest]
    · simp [ThreadedReceiver.remains, hat, hrest, unpushed_of_outside hidle]
    · rfl
  | walked ids hat =>
    apply h.silent (by simp [ThreadedReceiver.answer, hat]) hsafe hconf <;>
      simp [ThreadedReceiver.remains, hat, Receiver.restOfPass_nil]
  | pushes frame more rest ids hat =>
    -- what goes into the queue is no longer to be pushed
    have hpush := s.handOff.receiverWorkerStep_unpushed frame more fun x hx => by
      obtain ⟨more', rest', ids', hat'⟩ := h.safe.pushes x hx
      have hsame := hat.symm.trans hat'
      simp only [WorkerAt.push.injEq, List.cons.injEq] at hsame
      exact hsame.1.1.symm
    apply h.silent (by simp [ThreadedReceiver.answer, hat]) hsafe hconf
    · simp [ThreadedReceiver.remains, hat]
    · simp only [ThreadedReceiver.remains, hat]
      rw [← List.append_assoc, hpush, List.append_assoc]
    · rfl
  | pushed rest ids hat =>
    have hidle := h.safe.noPush (by simp [hat])
    apply h.silent (by simp [ThreadedReceiver.answer, hat]) hsafe hconf <;>
      simp [ThreadedReceiver.remains, hat, unpushed_of_outside hidle]
  | erases bucketID rest hat =>
    apply h.silent (by simp [ThreadedReceiver.answer, hat]) hsafe
      (deleteList_configured hconf bucketID)
    · simp [ThreadedReceiver.remains, hat, deleteList_cons s.receiver bucketID rest]
    · simp [ThreadedReceiver.remains, hat]
    · rfl
  | erased hat =>
    apply h.silent (by simp [ThreadedReceiver.answer, hat]) hsafe hconf <;>
      simp [ThreadedReceiver.remains, hat, Receiver.deleteList]
  | unlocks hat =>
    apply h.silent (by simp [ThreadedReceiver.answer, hat]) hsafe hconf <;>
      simp [ThreadedReceiver.remains, hat]
  | clears hat =>
    apply h.silent (by simp [ThreadedReceiver.answer, hat]) hsafe hconf <;>
      simp [ThreadedReceiver.remains, hat]
  | isOver hat => exact h.silent (by simp [ThreadedReceiver.answer, hat]) hsafe hconf rfl rfl rfl

/-- A call that is inside its section of `mNetMtx` finds no pass under way. -/
theorem remains_of_callNet (hsafe : s.Safe) (hat : s.call.holdsNet = true) :
    s.remains = (s.receiver, []) := by
  apply ThreadedReceiver.remains_of_not_holdsNet
  by_contra hworker
  have hheld := hsafe.callNet.mpr hat
  have hheld' := hsafe.workerNet.mpr (by simpa using hworker)
  rw [hheld] at hheld'
  exact absurd hheld' (by simp)

/-- **A step of a call.** -/
theorem Linearized.callStep (h : Linearized B H es s) {s' : ThreadedReceiver τ}
    (hstep : s.CallStep s') : Linearized B H (es ++ s.answer .call) s' := by
  have hsafe := h.safe.callStep hstep
  have hconf := h.configured
  cases hstep with
  | idle hat => exact h.silent (by simp [ThreadedReceiver.answer, hat]) hsafe hconf rfl rfl rfl
  | reads a hat =>
    apply h.silent (by simp [ThreadedReceiver.answer, hat]) hsafe hconf rfl rfl
    simp [CallAt.served, hat]
  | refuses a active hat hover =>
    have hanswer : s.answer .call = [] := by
      rcases hover with rfl | hover <;> simp_all [ThreadedReceiver.answer]
    apply h.silent hanswer hsafe hconf rfl rfl
    simp [ThreadedReceiver.receiveReturns, Return.served, CallAt.served, hat]
  | enters a hat hactive hunpacks =>
    have hanswer : s.answer .call = [] := by simp [ThreadedReceiver.answer, hat, hunpacks]
    apply h.silent hanswer hsafe hconf rfl rfl
    simp [CallAt.served, hat]
  | answers a hat hactive hunpacks =>
    -- the packet decides, also in the middle of a pass
    have hanswer : s.answer .call = [.receiveFragment a] := by
      simp [ThreadedReceiver.answer, hat, hactive, hunpacks]
    obtain ⟨message, hmem, hreceive⟩ := receive_of_not_unpacks hunpacks a.lFromSource a.amb
    have hsequential := hreceive _ (configured_run (τ := τ) B H .THREADED es).running
    have hserved : message ≠ .receiverNotRunning := by
      rintro rfl
      simp at hmem
    rw [hanswer]
    refine h.call hsequential.symm hsafe hconf h.receiver.symm rfl ?_
    simp [ThreadedReceiver.receiveReturns, hreceive _ hconf.running, Return.served, CallAt.served,
      hat, hserved]
  | locks a hat hfree =>
    apply h.silent (by simp [ThreadedReceiver.answer, hat]) hsafe hconf rfl rfl
    simp [CallAt.served, hat]
  | waits a hat hheld =>
    exact h.silent (by simp [ThreadedReceiver.answer, hat]) hsafe hconf rfl rfl rfl
  | unpacks a hat out hout =>
    -- the call has `mNetMtx`, so no pass is under way and both receivers agree
    have hanswer : s.answer .call = [.receiveFragment a] := by simp [ThreadedReceiver.answer, hat]
    have hremains := remains_of_callNet h.safe (by rw [hat]; rfl)
    have hremains' := remains_of_callNet hsafe rfl
    obtain ⟨-, hconf', hserved⟩ := receive_threaded hconf a.pSubPacket a.lFromSource a.amb
    rw [← hout] at hconf' hserved
    have hsequential : out = ((receiverMachine τ).run
        (.fresh τ B H .THREADED) es).receiver.receiveFragmentFromPtr
          a.pSubPacket a.lFromSource a.amb := by
      rw [(h.agrees hremains).1, hout]
    rw [hanswer]
    refine h.call hsequential hsafe hconf' ?_ ?_ ?_
    · rw [hremains']
    · rw [hremains', hremains]
    · simp [CallAt.served, Return.served, hat, hserved]
  | unlocks a m hat =>
    apply h.silent (by simp [ThreadedReceiver.answer, hat]) hsafe hconf rfl rfl
    cases hserved : (Return.receiveFragment a m).served with
    | none => simp [ThreadedReceiver.receiveReturns, CallAt.served, hat, hserved]
    | some x => simp [ThreadedReceiver.receiveReturns, CallAt.served, hat, hserved]
  | signals d hat =>
    -- the signal touches neither the receiver nor what was pushed
    obtain ⟨hworker, -, hpushed, -⟩ := s.handOff.stopReceiverStep_others
    have hremains : ThreadedReceiver.remains
        { s with
          handOff := s.handOff.stopReceiverStep
          call := if s.handOff.endsSignal then .pollWorker d 1000 else .signal d } =
        s.remains := ThreadedReceiver.remains_congr rfl rfl rfl hworker
    apply h.silent (by simp [ThreadedReceiver.answer, hat]) hsafe hconf
    · rw [hremains]
    · rw [hremains, hpushed]
    · simp only [hat]
      split
      · rfl
      · rfl
  | workerActive d n hat hactive =>
    apply h.silent (by simp [ThreadedReceiver.answer, hat]) hsafe hconf rfl rfl
    simp [CallAt.served, hat]
  | workerOver d n hat hover =>
    apply h.silent (by simp [ThreadedReceiver.answer, hat]) hsafe hconf rfl rfl
    simp [CallAt.served, hat]
  | deliveryActive d n hat hactive =>
    apply h.silent (by simp [ThreadedReceiver.answer, hat]) hsafe hconf rfl rfl
    simp [CallAt.served, hat]
  | stopped d n hat hover =>
    apply h.silent (by simp [ThreadedReceiver.answer, hat]) hsafe hconf rfl rfl
    cases d <;> simp [ThreadedReceiver.stopReturns, Return.served, CallAt.served, hat]
  | givesUp d n hat hlast =>
    apply h.silent (by simp [ThreadedReceiver.answer, hat]) hsafe hconf rfl rfl
    cases d <;> simp [ThreadedReceiver.stopReturns, Return.served, CallAt.served, hat]
  | pollsAgain d n hat hmore =>
    apply h.silent (by simp [ThreadedReceiver.answer, hat]) hsafe hconf rfl rfl
    simp [CallAt.served, hat]
  | asks hat hactive =>
    apply h.silent (by simp [ThreadedReceiver.answer, hat]) hsafe hconf rfl rfl
    simp [CallAt.served, hat]
  | skips hat hstopped =>
    apply h.silent (by simp [ThreadedReceiver.answer, hat]) hsafe hconf rfl rfl
    simp [CallAt.served, hat]
  | deletes hat =>
    apply h.silent (by simp [ThreadedReceiver.answer, hat]) hsafe hconf rfl rfl
    simp [CallAt.served, hat]
  | isOver hat => exact h.silent (by simp [ThreadedReceiver.answer, hat]) hsafe hconf rfl rfl rfl

/-- **Step lemma.** -/
theorem Linearized.step (h : Linearized B H es s) (action : ThreadedAction τ) :
    Linearized B H (es ++ s.answer action) (s.step action) := by
  have hsafe := h.safe.step action
  have hstep := s.step_cases action
  generalize s.step action = s' at hstep hsafe ⊢
  cases hstep with
  | begins action hcall c hc hat =>
    have hserved : c.served = [] := by cases hc <;> rfl
    apply h.silent (s.answer_of_isCall hcall) hsafe h.configured rfl rfl
    rw [hat, hserved]
    rfl
  | busy action hcall hat =>
    exact h.silent (s.answer_of_isCall hcall) hsafe h.configured rfl rfl rfl
  | call s' hstep => exact h.callStep hstep
  | receiverWorker now s' hstep => exact h.workerStep hstep
  | deliveryWorker spuriously s' hstep =>
    cases hstep with
    | works hat =>
      obtain ⟨hworker, -, -, -, hpushed⟩ := s.handOff.deliveryWorkerStep_others spuriously
      have hremains : ThreadedReceiver.remains
          { s with handOff := s.handOff.deliveryWorkerStep spuriously } = s.remains :=
        ThreadedReceiver.remains_congr rfl rfl rfl hworker
      apply h.silent rfl hsafe h.configured
      · rw [hremains]
      · rw [hremains, hpushed]
      · rfl
    | clears hat => exact h.silent rfl hsafe h.configured rfl rfl rfl

/-- **Run lemma.** -/
theorem linearized_run (B H : UInt32) (schedule : List (ThreadedAction τ)) :
    Linearized B H (sequential B H schedule)
      ((threadedMachine τ).run (.new τ B H) schedule) :=
  Machine.Simulation.run (R := Linearized B H) ⟨linearized_new, fun _ _ i h => h.step i⟩ schedule

end Linearization

/-! ## §6 Every interleaving -/

section Results

variable {B H : UInt32} {es : List (Event τ)} {s : ThreadedReceiver τ}

/-- The worker is not in its section, so it has nothing left to do. -/
theorem Linearized.remains (h : Linearized B H es s) (hother : s.mNetMtx ≠ some .receiverWorker) :
    s.remains = (s.receiver, []) := by
  apply s.remains_of_not_holdsNet
  simpa [h.safe.workerNet] using hother

/-- What was delivered was pushed, in this order. -/
theorem Linearized.delivered_begins (h : Linearized B H es s) :
    s.handOff.delivered <+: s.handOff.pushed := by
  rw [h.safe.handOff.ledger, List.append_assoc]
  exact List.prefix_append _ _

/-- What was pushed was handed out by the passes, in this order. -/
theorem Linearized.pushed_begins (h : Linearized B H es s) :
    s.handOff.pushed <+: framesOf ((receiverMachine τ).outputs (.fresh τ B H .THREADED) es) := by
  rw [h.frames]
  exact List.prefix_append _ _

/-- Outside of a pass all of it was pushed. -/
theorem Linearized.pushed_eq (h : Linearized B H es s)
    (hother : s.mNetMtx ≠ some .receiverWorker) :
    s.handOff.pushed = framesOf ((receiverMachine τ).outputs (.fresh τ B H .THREADED) es) :=
  (h.agrees (h.remains hother)).2.symm

end Results

/-- **The threaded receiver is linearizable.** For every interleaving of the steps of both threads
    and of any number of calls there is one sequence of calls and passes, each in its place between
    its first statement and its last, such that for a sequential receiver in threaded mode:
    while nobody holds `mNetMtx` the receiver is the sequential one; `receiveCallback` got a prefix
    of what the sequential passes hand out, in this order and with these fields, and outside of a
    pass all of it was pushed; and the calls that came back and were served, with what they said,
    are those of the sequential receiver, but for one that is about to come back. The sequence only
    grows when the schedule goes on. -/
theorem threadedReceiver_linearizable (B H : UInt32) (schedule : List (ThreadedAction τ)) :
    let s := (threadedMachine τ).run (.new τ B H) schedule
    let fresh := Traced.fresh τ B H .THREADED
    let es := sequential B H schedule
    (s.mNetMtx = none → s.receiver = ((receiverMachine τ).run fresh es).receiver) ∧
    s.handOff.delivered <+: s.handOff.pushed ∧
    s.handOff.pushed <+: framesOf ((receiverMachine τ).outputs fresh es) ∧
    (s.mNetMtx ≠ some .receiverWorker →
      s.handOff.pushed = framesOf ((receiverMachine τ).outputs fresh es)) ∧
    s.returned.filterMap Return.served <+: callsOf ((receiverMachine τ).transcript fresh es) ∧
    (s.call = .outside →
      s.returned.filterMap Return.served = callsOf ((receiverMachine τ).transcript fresh es)) ∧
    ∀ later, es <+: sequential B H (schedule ++ later) := by
  intro s fresh es
  have h : Linearized B H es s := linearized_run B H schedule
  refine ⟨?_, h.delivered_begins, h.pushed_begins, h.pushed_eq, ?_, ?_, ?_⟩
  · intro hfree
    exact (h.agrees (h.remains (by simp [hfree]))).1.symm
  · rw [h.calls]
    exact List.prefix_append _ _
  · intro houtside
    rw [h.calls, houtside]
    exact (List.append_nil _).symm
  · exact fun later => Machine.answers_prefix _ _ _ _ _

end ElasticFrame.Threads
