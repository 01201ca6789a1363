import ElasticFrame.Receiver.Refusal

/-!
# Two Modes, One Receiver

In run-to-completion mode the call that brings a fragment also delivers. In threaded mode a worker
does. Out of head-of-line mode a worker that makes its pass right behind each call does the same:
the calls give the same results, and the same superframes are handed out in the same order.

- `Receiver.inMode`: the receiver as it would be in the other mode
- `Receiver.unpackSubPacket`: what a call does before it delivers, which does not depend on the mode
- `modes_agree`: the two runs, for any packets

A packet that is refused before it is unpacked makes no delivery pass in run-to-completion mode, so
the worker must not make one either.
-/

namespace ElasticFrame

open ElasticFrame.Lib

/-! ## §1 The other mode -/

namespace Receiver

variable (r : Receiver) (mode : EFPReceiverMode)

/-- The receiver in this mode, with its threads. -/
def inMode : Receiver :=
  { r with
    mCurrentMode := mode
    mIsWorkerThreadActive := mode == .THREADED
    mIsDeliveryThreadActive := mode == .THREADED }

theorem inMode_running : (r.inMode mode).Running := by
  cases mode <;> simp [Running, inMode]

@[simp] theorem inMode_list : (r.inMode mode).mBucketList = r.mBucketList := rfl

@[simp] theorem inMode_candidate (n : UInt16) : (r.inMode mode).candidate n = r.candidate n := by
  cases hfirst : r.mSuperFrameFirstTime <;>
    simp [candidate, superFrameRecalculator, inMode, hfirst]

/-- Opening a bucket does not look at the mode. -/
theorem openBucket_inMode (f : Fragment) (lFromSource : UInt8) (amb : Ambient) :
    (r.inMode mode).openBucket f lFromSource amb =
      { r.openBucket f lFromSource amb with
        receiver := (r.openBucket f lFromSource amb).receiver.inMode mode } := by
  simp only [openBucket, inMode_list, openedBucket, renumbered, inMode_candidate]
  split_ifs <;> rfl

/-- Nor does filling one. -/
theorem fillBucket_inMode (f : Fragment) :
    (r.inMode mode).fillBucket f =
      { r.fillBucket f with receiver := (r.fillBucket f).receiver.inMode mode } := by
  -- the tests are made of the same bucket
  show (if f.hSuperFrameNo ≠ (r.mBucketList f.slot).mSavedSuperFrameNo then _
    else if (r.mBucketList f.slot).mOfFragmentNo < f.fragmentNo ∨
      f.hOfFragmentNo ≠ (r.mBucketList f.slot).mOfFragmentNo then _
    else if f.fragmentNo ∈ (r.mBucketList f.slot).mHaveReceivedFragment then _
    else _ : Unpacked) = _
  simp only [fillBucket]
  split_ifs <;> rfl

/-- **Unpacking does not look at the mode.** -/
theorem unpackFragment_inMode (f : Fragment) (lFromSource : UInt8) (amb : Ambient) :
    (r.inMode mode).unpackFragment f lFromSource amb =
      { r.unpackFragment f lFromSource amb with
        receiver := (r.unpackFragment f lFromSource amb).receiver.inMode mode } := by
  show (if (r.mBucketList f.slot).mActive = false then (r.inMode mode).openBucket f lFromSource amb
    else (r.inMode mode).fillBucket f) = _
  unfold unpackFragment
  split
  case isTrue hidle => exact r.openBucket_inMode mode f lFromSource amb
  case isFalse hactive => exact r.fillBucket_inMode mode f

/-- Nor does the scan. -/
theorem headScan_inMode (lTimeNow : ℤ) (es : List (UInt64 × Slot)) (head : UInt64) :
    (r.inMode mode).headScan lTimeNow es head = r.headScan lTimeNow es head := by
  induction es generalizing head with
  | nil => rfl
  | cons e es ih =>
    simp only [headScan, ih]
    rfl

/-- Nor does the delivery. -/
theorem conclude_inMode (lTimeNow : ℤ) :
    (r.inMode mode).conclude ((r.inMode mode).scan lTimeNow) =
      { r.conclude (r.scan lTimeNow) with
        receiver := (r.conclude (r.scan lTimeNow)).receiver.inMode mode } := by
  -- the scan reads the buckets, the map and the head, and the head-of-line timeout
  have hscan : (r.inMode mode).scan lTimeNow = r.scan lTimeNow := by
    simp only [scan, headScan_inMode]
    rfl
  rw [hscan]
  rfl

/-! ## §2 A call before its delivery -/

/-- The part of `receiveFragmentFromPtr` between the test of the threads and the delivery: the
    packet is refused with a result, or unpacked. -/
def unpackSubPacket (pSubPacket : List UInt8) (lFromSource : UInt8) (amb : Ambient) :
    Except ElasticFrameMessages Unpacked :=
  let lFrameType := byteAt pSubPacket 0 &&& 0x0f
  if lFrameType = Frametype.type0.value then .error .type0Frame
  else if lFrameType = Frametype.type1.value then
    if pSubPacket.length < ElasticFrameType1.size then .error .frameSizeMismatch
    else .ok (r.unpackType1 pSubPacket lFromSource amb)
  else if lFrameType = Frametype.type2.value then
    if pSubPacket.length < ElasticFrameType2.size then .error .frameSizeMismatch
    else .ok (r.unpackType2 pSubPacket lFromSource amb)
  else if lFrameType = Frametype.type3.value then
    if pSubPacket.length < ElasticFrameType3.size then .error .frameSizeMismatch
    else .ok (r.unpackType3 pSubPacket lFromSource amb)
  else .error .unknownFrameType

/-- **A call of a running receiver**: it is refused, or it unpacks and delivers. -/
theorem receiveFragmentFromPtr_eq (hrunning : r.Running) (p : List UInt8) (lFromSource : UInt8)
    (amb : Ambient) :
    r.receiveFragmentFromPtr p lFromSource amb =
      match r.unpackSubPacket p lFromSource amb with
      | .error message =>
          { message, receiver := r, handed := [], accesses := [Access.packet 0 1 p.length] }
      | .ok u => completeCall (u.reading [Access.packet 0 1 p.length]) amb := by
  rw [receiveFragmentFromPtr, if_neg hrunning]
  simp only [unpackSubPacket]
  split_ifs <;> rfl

/-- What is unpacked does not depend on the mode. -/
theorem unpackSubPacket_inMode (p : List UInt8) (lFromSource : UInt8) (amb : Ambient) :
    (r.inMode mode).unpackSubPacket p lFromSource amb =
      (r.unpackSubPacket p lFromSource amb).map fun u =>
        { u with receiver := u.receiver.inMode mode } := by
  simp only [unpackSubPacket, unpackType1, unpackType2, unpackType3, unpackFragment_inMode]
  split_ifs <;> rfl

/-- What is unpacked leaves the receiver as it is, or unpacks a fragment. -/
theorem unpackSubPacket_receiver {p : List UInt8} {lFromSource : UInt8} {amb : Ambient}
    {u : Unpacked} (hok : r.unpackSubPacket p lFromSource amb = .ok u) :
    u.receiver = r ∨ ∃ f, u.receiver = (r.unpackFragment f lFromSource amb).receiver := by
  simp only [unpackSubPacket, unpackType2] at hok
  split_ifs at hok <;> cases hok
  · exact Or.inr ⟨_, rfl⟩
  · exact Or.inl rfl
  · exact Or.inr ⟨_, rfl⟩
  · exact Or.inr ⟨_, rfl⟩

end Receiver

/-- It depends on the packet alone whether it is unpacked. -/
theorem Receiver.unpackSubPacket_isOk (r : Receiver) (p : List UInt8) (lFromSource : UInt8)
    (amb : Ambient) : (r.unpackSubPacket p lFromSource amb).isOk = unpacks p := by
  have hval : Frametype.type0.value = 0 ∧ Frametype.type1.value = 1 ∧
      Frametype.type2.value = 2 ∧ Frametype.type3.value = 3 := ⟨rfl, rfl, rfl, rfl⟩
  obtain ⟨hv0, hv1, hv2, hv3⟩ := hval
  simp only [unpackSubPacket, unpacks, hv0, hv1, hv2, hv3]
  generalize byteAt p 0 &&& 0x0f = kind
  split_ifs with h0 h1 hsize h2 hsize h3 hsize
  · subst h0
    simp [Except.isOk, Except.toBool]
  · subst h1
    simp [Except.isOk, Except.toBool, hsize]
  · subst h1
    simp [Except.isOk, Except.toBool, Nat.not_lt.mp hsize]
  · subst h2
    simp [Except.isOk, Except.toBool, hsize]
  · subst h2
    simp [Except.isOk, Except.toBool, Nat.not_lt.mp hsize]
  · subst h3
    simp [Except.isOk, Except.toBool, hsize]
  · subst h3
    simp [Except.isOk, Except.toBool, Nat.not_lt.mp hsize]
  · simp [Except.isOk, Except.toBool, h1, h2, h3]

/-! ## §3 Two runs -/

section Runs

variable {τ : Type}

/-- A call, and the pass of a worker right behind it. -/
def callAndPass (a : Arrival τ) : List (Event τ) :=
  .receiveFragment a ::
    if unpacks a.pSubPacket then [.receiverWorkerPass a.amb.clockPass] else []

/-- The results of the calls of a run. -/
def results (os : List (Report τ)) : List ElasticFrameMessages := os.filterMap Report.message

/-- What two receivers have to agree on after some events. -/
structure SameSoFar (s s' : Traced τ) (os os' : List (Report τ)) : Prop where
  receiver : s'.receiver = s.receiver.inMode .THREADED
  results : results os' = results os
  frames : framesOf os' = framesOf os

/-- What is seen of a call, by the receiver in it. -/
theorem Traced.step_call (s : Traced τ) (a : Arrival τ) :
    let out := s.receiver.receiveFragmentFromPtr a.pSubPacket a.lFromSource a.amb
    (s.step (.receiveFragment a)).1.receiver = out.receiver ∧
      results [(s.step (.receiveFragment a)).2] = [out.message] ∧
      framesOf [(s.step (.receiveFragment a)).2] = out.handed.map Handed.frame :=
  ⟨rfl, rfl, (framesOf_singleton _).trans (Traced.handOvers_frames _ _ _)⟩

/-- What is seen of a pass. -/
theorem Traced.step_workerPass (s : Traced τ) (lTimeNow : ℤ) :
    let d := s.receiver.receiverWorkerPass lTimeNow
    (s.step (.receiverWorkerPass lTimeNow)).1.receiver = d.receiver ∧
      results [(s.step (.receiverWorkerPass lTimeNow)).2] = [] ∧
      framesOf [(s.step (.receiverWorkerPass lTimeNow)).2] = d.handed.map Handed.frame :=
  ⟨rfl, rfl, (framesOf_singleton _).trans (Traced.handOvers_frames _ _ _)⟩

theorem results_append (os os' : List (Report τ)) :
    results (os ++ os') = results os ++ results os' := List.filterMap_append

/-- Out of head-of-line mode a worker pass in threaded mode is a pass of the other engine in
    run-to-completion mode. -/
theorem Receiver.receiverWorkerPass_inMode {r : Receiver} (hcoherent : r.Coherent)
    (hhol : r.mHeadOfLineBlockingTimeoutms = 0) (mode : EFPReceiverMode) (lTimeNow : ℤ) :
    (r.inMode mode).receiverWorkerPass lTimeNow =
      { r.runToCompletionMethod lTimeNow with
        receiver := (r.runToCompletionMethod lTimeNow).receiver.inMode mode } := by
  -- the worker only waits for a second bucket in head-of-line mode
  have hready : ¬ (r.inMode mode).awaitsFirstRun lTimeNow := fun hwaits => hwaits.1 hhol
  rw [(r.inMode mode).receiverWorkerPass_eq hcoherent.slotsDistinct, if_neg hready,
    r.runToCompletionMethod_eq hcoherent.slotsDistinct]
  exact r.conclude_inMode mode lTimeNow

/-- What a call unpacks keeps the invariants of the receiver. -/
private theorem unpackSubPacket_kept {r : Receiver} {B H : UInt32} {mode : EFPReceiverMode}
    (hcoherent : r.Coherent) (hconf : r.Configured B H mode) {p : List UInt8}
    {lFromSource : UInt8} {amb : Ambient} {u : Unpacked}
    (hok : r.unpackSubPacket p lFromSource amb = .ok u) :
    u.receiver.Coherent ∧ u.receiver.Configured B H mode := by
  rcases r.unpackSubPacket_receiver hok with hsame | ⟨f, hf⟩
  · rw [hsame]
    exact ⟨hcoherent, hconf⟩
  · rw [hf]
    exact ⟨hcoherent.unpack f lFromSource amb, hconf.unpack f lFromSource amb⟩

/-- **One call** in run-to-completion mode, and in threaded mode with a pass behind it. -/
theorem sameSoFar_step {B : UInt32} {s s' : Traced τ} {os os' : List (Report τ)}
    (hcoherent : s.receiver.Coherent)
    (hconf : s.receiver.Configured B 0 .RUN_TO_COMPLETION) (h : SameSoFar s s' os os')
    (a : Arrival τ) :
    SameSoFar (s.step (.receiveFragment a)).1 ((receiverMachine τ).run s' (callAndPass a))
      (os ++ [(s.step (.receiveFragment a)).2])
      (os' ++ (receiverMachine τ).outputs s' (callAndPass a)) := by
  have hcall := s.receiver.receiveFragmentFromPtr_eq hconf.running a.pSubPacket a.lFromSource a.amb
  have hcall' := s'.receiver.receiveFragmentFromPtr_eq
    (by rw [h.receiver]; exact s.receiver.inMode_running .THREADED)
    a.pSubPacket a.lFromSource a.amb
  have hok := s.receiver.unpackSubPacket_isOk a.pSubPacket a.lFromSource a.amb
  rw [h.receiver, Receiver.unpackSubPacket_inMode, ← h.receiver] at hcall'
  obtain ⟨hstep, hresult, hframe⟩ := s.step_call a
  obtain ⟨hstep', hresult', hframe'⟩ := s'.step_call a
  cases hu : s.receiver.unpackSubPacket a.pSubPacket a.lFromSource a.amb with
  | error message =>
    -- no pass in either mode
    have hnone : callAndPass a = [.receiveFragment a] := by
      rw [hu] at hok
      simp [callAndPass, ← hok, Except.isOk, Except.toBool]
    rw [hu] at hcall hcall'
    simp only [Except.map] at hcall'
    rw [hcall] at hstep hresult hframe
    rw [hcall'] at hstep' hresult' hframe'
    rw [hnone]
    refine ⟨?_, ?_, ?_⟩
    · show (s'.step (.receiveFragment a)).1.receiver = _
      rw [hstep', hstep, h.receiver]
    · show results (os' ++ [(s'.step (.receiveFragment a)).2]) = _
      rw [results_append, results_append, hresult', hresult, h.results]
    · show framesOf (os' ++ [(s'.step (.receiveFragment a)).2]) = _
      rw [framesOf_append, framesOf_append, hframe', hframe, h.frames]
  | ok u =>
    have hboth : callAndPass a = [.receiveFragment a, .receiverWorkerPass a.amb.clockPass] := by
      rw [hu] at hok
      simp [callAndPass, ← hok, Except.isOk, Except.toBool]
    obtain ⟨hcoherentu, hconfu⟩ := unpackSubPacket_kept hcoherent hconf hu
    rw [hu] at hcall hcall'
    simp only [Except.map] at hcall'
    -- in run-to-completion mode the call delivers, in threaded mode it does not
    have hdelivers : u.receiver.runIfToCompletion a.amb.clockPass =
        u.receiver.runToCompletionMethod a.amb.clockPass := if_pos hconfu.currentMode
    have hwaits : (u.receiver.inMode .THREADED).runIfToCompletion a.amb.clockPass =
        { receiver := u.receiver.inMode .THREADED, handed := [] } :=
      if_neg (show EFPReceiverMode.THREADED ≠ .RUN_TO_COMPLETION by decide)
    obtain ⟨hpass, hpassResult, hpassFrame⟩ :=
      (s'.step (.receiveFragment a)).1.step_workerPass a.amb.clockPass
    simp only [Receiver.completeCall, Unpacked.reading] at hcall hcall'
    rw [hdelivers] at hcall
    rw [hwaits] at hcall'
    rw [hcall] at hstep hresult hframe
    rw [hcall'] at hstep' hresult' hframe'
    rw [hstep', Receiver.receiverWorkerPass_inMode hcoherentu hconfu.holTimeoutms]
      at hpass hpassFrame
    have hrun : (receiverMachine τ).run s' (callAndPass a) =
        ((s'.step (.receiveFragment a)).1.step (.receiverWorkerPass a.amb.clockPass)).1 := by
      rw [hboth]
      rfl
    have houtputs : (receiverMachine τ).outputs s' (callAndPass a) =
        [(s'.step (.receiveFragment a)).2] ++
          [((s'.step (.receiveFragment a)).1.step (.receiverWorkerPass a.amb.clockPass)).2] := by
      rw [hboth]
      rfl
    rw [hrun, houtputs]
    refine ⟨?_, ?_, ?_⟩
    · rw [hpass, hstep]
    · rw [results_append, results_append, results_append, hresult', hpassResult, hresult, h.results,
        List.append_nil]
    · rw [framesOf_append, framesOf_append, framesOf_append, hframe', hpassFrame, hframe, h.frames]
      rfl

/-- **The two modes agree.** Out of head-of-line mode, whatever packets come: a threaded receiver
    whose worker makes a pass right behind each call that unpacks gives the same results, hands out
    the same superframes in the same order and ends in the same state as a receiver in
    run-to-completion mode. -/
theorem modes_agree (B : UInt32) (as : List (Arrival τ)) :
    let machine := receiverMachine τ
    let called := as.map Event.receiveFragment
    let passed := as.flatMap callAndPass
    results (machine.outputs (.fresh τ B 0 .THREADED) passed) =
        results (machine.outputs (.fresh τ B 0 .RUN_TO_COMPLETION) called) ∧
      framesOf (machine.outputs (.fresh τ B 0 .THREADED) passed) =
        framesOf (machine.outputs (.fresh τ B 0 .RUN_TO_COMPLETION) called) ∧
      (machine.run (.fresh τ B 0 .THREADED) passed).receiver =
        (machine.run (.fresh τ B 0 .RUN_TO_COMPLETION) called).receiver.inMode .THREADED := by
  intro machine called passed
  suffices h : SameSoFar (machine.run (.fresh τ B 0 .RUN_TO_COMPLETION) called)
      (machine.run (.fresh τ B 0 .THREADED) passed)
      (machine.outputs (.fresh τ B 0 .RUN_TO_COMPLETION) called)
      (machine.outputs (.fresh τ B 0 .THREADED) passed) from
    ⟨h.results, h.frames, h.receiver⟩
  induction as using List.reverseRecOn with
  | nil => exact ⟨rfl, rfl, rfl⟩
  | append_singleton as a ih =>
    have hstep := sameSoFar_step (coherent_run B 0 .RUN_TO_COMPLETION (as.map .receiveFragment))
      (configured_run B 0 .RUN_TO_COMPLETION (as.map .receiveFragment)) ih a
    simp only [called, passed, List.map_append, List.map_cons, List.map_nil, List.flatMap_append,
      List.flatMap_singleton, machine, Machine.run_append, Machine.outputs_append]
    exact hstep

end Runs

end ElasticFrame
