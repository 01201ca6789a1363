import ElasticFrame.Lib.Machine
import ElasticFrame.Receiver.DeliverySpec
import ElasticFrame.Receiver.UnpackSpec

/-!
# Runs of a Receiver

`receiveFragmentFromPtr`, and the machine whose inputs are the calls made to a receiver and the
delivery passes of its worker.

The machine carries three things the code does not have: for every bucket, the calls whose
fragment was accepted into it since it was opened (`Traced.accepted`) and the call that last opened
it, whether it kept it or not (`Traced.owner`); and the call that the renumbering last took into
account (`Traced.latest`). With them a superframe that is handed out can be compared with what
arrived. The receiver inside the traced state is never influenced by them.

## How invariants are proved

A step is an unpacking (`Traced.unpacked`), a delivery pass (`Traced.concluded`), or first one
and then the other. `step_rule` turns a proof for the two parts into a proof for the step, and
`step_handed` says in which state a superframe that the step hands out was selected.
-/

namespace ElasticFrame

open ElasticFrame.Lib

/-! ## §1 `receiveFragmentFromPtr` -/

/-- What one call of `receiveFragmentFromPtr` gives back. -/
structure Received where
  message : ElasticFrameMessages
  receiver : Receiver
  handed : List Handed
  accesses : List Access

/-- The delivery at the end of a call, in run-to-completion mode. -/
def Receiver.runIfToCompletion (r : Receiver) (lTimeNow : ℤ) : Delivered :=
  if r.mCurrentMode = .RUN_TO_COMPLETION then r.runToCompletionMethod lTimeNow
  else { receiver := r, handed := [] }

/-- The end of a call that unpacked. -/
def Receiver.completeCall (u : Unpacked) (amb : Ambient) : Received :=
  let d := u.receiver.runIfToCompletion amb.clockPass
  { message := u.message, receiver := d.receiver, handed := d.handed, accesses := u.accesses }

/-- A call is served: in threaded mode only while both threads are active. -/
def Receiver.Running (r : Receiver) : Prop :=
  ¬ (¬ (r.mIsWorkerThreadActive ∧ r.mIsDeliveryThreadActive) ∧ r.mCurrentMode = .THREADED)

/-- `receiveFragmentFromPtr`. The kind of a packet is in the low four bits of its first byte,
    which is read before any length is checked. -/
def Receiver.receiveFragmentFromPtr (r : Receiver) (pSubPacket : List UInt8) (lFromSource : UInt8)
    (amb : Ambient) : Received :=
  if ¬ (r.mIsWorkerThreadActive ∧ r.mIsDeliveryThreadActive) ∧ r.mCurrentMode = .THREADED then
    { message := .receiverNotRunning, receiver := r, handed := [], accesses := [] }
  else
    let peek := Access.packet 0 1 pSubPacket.length
    let refuse (message : ElasticFrameMessages) : Received :=
      { message, receiver := r, handed := [], accesses := [peek] }
    let lFrameType := byteAt pSubPacket 0 &&& 0x0f
    if lFrameType = Frametype.type0.value then refuse .type0Frame
    else if lFrameType = Frametype.type1.value then
      if pSubPacket.length < ElasticFrameType1.size then refuse .frameSizeMismatch
      else completeCall ((r.unpackType1 pSubPacket lFromSource amb).reading [peek]) amb
    else if lFrameType = Frametype.type2.value then
      if pSubPacket.length < ElasticFrameType2.size then refuse .frameSizeMismatch
      else completeCall ((r.unpackType2 pSubPacket lFromSource amb).reading [peek]) amb
    else if lFrameType = Frametype.type3.value then
      if pSubPacket.length < ElasticFrameType3.size then refuse .frameSizeMismatch
      else completeCall ((r.unpackType3 pSubPacket lFromSource amb).reading [peek]) amb
    else refuse .unknownFrameType

/-- The packet is of a kind that is unpacked, and as long as a header of its kind. Only then a call
    takes `mNetMtx`. -/
def unpacks (pSubPacket : List UInt8) : Bool :=
  let lFrameType := byteAt pSubPacket 0 &&& 0x0f
  (lFrameType == Frametype.type1.value && ElasticFrameType1.size ≤ pSubPacket.length) ||
    (lFrameType == Frametype.type2.value && ElasticFrameType2.size ≤ pSubPacket.length) ||
    (lFrameType == Frametype.type3.value && ElasticFrameType3.size ≤ pSubPacket.length)

/-! ## §2 The fragment in a packet -/

/-- The fragment that is unpacked from a packet, when the checks of its size let it through. -/
def Fragment.ofPacket (p : List UInt8) : Option Fragment :=
  let lFrameType := byteAt p 0 &&& 0x0f
  if lFrameType = Frametype.type1.value ∧ ElasticFrameType1.size ≤ p.length then
    some (fragmentType1 p)
  else if lFrameType = Frametype.type2.value ∧
      ElasticFrameType2.size + (ElasticFrameType2.ofBytes p).hSizeOfData.toNat ≤ p.length then
    some (fragmentType2 p)
  else if lFrameType = Frametype.type3.value ∧ ElasticFrameType3.size ≤ p.length then
    some (fragmentType3 p)
  else none

/-- The ways through `receiveFragmentFromPtr`. -/
inductive ReceiveStep (r : Receiver) (p : List UInt8) (lFromSource : UInt8) (amb : Ambient) :
    Received → Prop where
  /-- The packet is refused before it is unpacked. -/
  | refused (message : ElasticFrameMessages) (accesses : List Access)
      (hmessage : (message = .receiverNotRunning ∧ ¬ r.Running) ∨ Fragment.ofPacket p = none ∧
        message ∈ [ElasticFrameMessages.type0Frame, .frameSizeMismatch, .unknownFrameType])
      (haccesses : accesses ⊆ [Access.packet 0 1 p.length]) :
      ReceiveStep r p lFromSource amb { message, receiver := r, handed := [], accesses }
  /-- A type2 packet announces more data than it has. -/
  | cut (hpacket : Fragment.ofPacket p = none) (hsize : ElasticFrameType2.size ≤ p.length) :
      ReceiveStep r p lFromSource amb
        (Receiver.completeCall
          { message := .type2FrameOutOfBounds
            receiver := r
            accesses :=
              [Access.packet 0 1 p.length, Access.packet 0 ElasticFrameType2.size p.length] }
          amb)
  /-- The packet is unpacked. -/
  | fragment (f : Fragment) (header : ℕ) (hpacket : Fragment.ofPacket p = some f) :
      ReceiveStep r p lFromSource amb
        (Receiver.completeCall ((r.unpackFragment f lFromSource amb).reading
          (Access.packet 0 1 p.length :: packetReads p header f)) amb)

/-- A packet of another kind, or too short for its kind, holds no fragment. -/
private theorem ofPacket_none {p : List UInt8}
    (h1 : byteAt p 0 &&& 0x0f = Frametype.type1.value → p.length < ElasticFrameType1.size)
    (h2 : byteAt p 0 &&& 0x0f = Frametype.type2.value →
      p.length < ElasticFrameType2.size + (ElasticFrameType2.ofBytes p).hSizeOfData.toNat)
    (h3 : byteAt p 0 &&& 0x0f = Frametype.type3.value → p.length < ElasticFrameType3.size) :
    Fragment.ofPacket p = none := by
  unfold Fragment.ofPacket
  rw [if_neg, if_neg, if_neg]
  · exact fun h => Nat.not_lt.mpr h.2 (h3 h.1)
  · exact fun h => Nat.not_lt.mpr h.2 (h2 h.1)
  · exact fun h => Nat.not_lt.mpr h.2 (h1 h.1)

/-- **Nothing else happens.** -/
theorem Receiver.receiveFragmentFromPtr_step (r : Receiver) (p : List UInt8)
    (lFromSource : UInt8) (amb : Ambient) :
    ReceiveStep r p lFromSource amb (r.receiveFragmentFromPtr p lFromSource amb) := by
  unfold receiveFragmentFromPtr
  split
  case isTrue hstopped => exact .refused _ _ (Or.inl ⟨rfl, not_not.mpr hstopped⟩) (by simp)
  case isFalse =>
    -- one case for each kind, in the order of the source, and in it the check of the size
    generalize hkind : byteAt p 0 &&& 0x0f = kind
    have hval : Frametype.type0.value = 0 ∧ Frametype.type1.value = 1 ∧
        Frametype.type2.value = 2 ∧ Frametype.type3.value = 3 := ⟨rfl, rfl, rfl, rfl⟩
    obtain ⟨hv0, hv1, hv2, hv3⟩ := hval
    simp only []
    split
    case isTrue h0 =>
      refine .refused _ _ (Or.inr ⟨ofPacket_none ?_ ?_ ?_, by simp⟩) (by simp) <;>
        simp [hkind, h0, hv0, hv1, hv2, hv3]
    case isFalse h0 =>
    split
    case isTrue h1 =>
      split
      case isTrue hsize =>
        refine .refused _ _ (Or.inr ⟨ofPacket_none (fun _ => hsize) ?_ ?_, by simp⟩) (by simp) <;>
          simp [hkind, h1, hv1, hv2, hv3]
      case isFalse hsize =>
        exact .fragment _ _
          (by rw [Fragment.ofPacket, if_pos ⟨hkind.trans h1, Nat.not_lt.mp hsize⟩])
    case isFalse h1 =>
    split
    case isTrue h2 =>
      split
      case isTrue hsize =>
        have hnone := ofPacket_none (p := p) (by simp [hkind, h2, hv1, hv2]) (fun _ => by omega)
          (by simp [hkind, h2, hv2, hv3])
        exact .refused _ _ (Or.inr ⟨hnone, by simp⟩) (by simp)
      case isFalse hsize =>
        -- the header fits; the size of the data is checked by `unpackType2`
        unfold unpackType2
        simp only []
        split
        case isTrue hdata =>
          refine .cut (ofPacket_none ?_ (fun _ => hdata) ?_) (Nat.not_lt.mp hsize) <;>
            simp [hkind, h2, hv1, hv2, hv3]
        case isFalse hdata =>
          refine .fragment _ _ ?_
          rw [Fragment.ofPacket, if_neg (by simp [hkind, h2, hv1, hv2]),
            if_pos ⟨hkind.trans h2, Nat.not_lt.mp hdata⟩]
    case isFalse h2 =>
    split
    case isTrue h3 =>
      split
      case isTrue hsize =>
        refine .refused _ _ (Or.inr ⟨ofPacket_none ?_ ?_ (fun _ => hsize), by simp⟩) (by simp) <;>
          simp [hkind, h3, hv1, hv2, hv3]
      case isFalse hsize =>
        refine .fragment _ _ ?_
        rw [Fragment.ofPacket, if_neg (by simp [hkind, h3, hv1, hv3]),
          if_neg (by simp [hkind, h3, hv2, hv3]), if_pos ⟨hkind.trans h3, Nat.not_lt.mp hsize⟩]
    case isFalse h3 =>
      refine .refused _ _ (Or.inr ⟨ofPacket_none ?_ ?_ ?_, by simp⟩) (by simp)
      · exact fun h => absurd (hkind.symm.trans h) h1
      · exact fun h => absurd (hkind.symm.trans h) h2
      · exact fun h => absurd (hkind.symm.trans h) h3

/-! ## §3 The traced machine -/

/-- One call of `receiveFragmentFromPtr`, with what the surroundings know about its packet. -/
structure Arrival (τ : Type) where
  label : τ
  pSubPacket : List UInt8
  lFromSource : UInt8
  amb : Ambient

/-- What happens to a receiver: a call, or a delivery pass. -/
inductive Event (τ : Type) where
  | receiveFragment (a : Arrival τ)
  | runToCompletionMethod (lTimeNow : ℤ)
  | receiverWorkerPass (lTimeNow : ℤ)

/-- A superframe handed out, with the calls whose fragments were accepted into its bucket. -/
structure HandOver (τ : Type) where
  slot : Slot
  frame : SuperFrame
  accepted : List (Arrival τ)
  lTimeNow : ℤ

/-- What is seen of one event from outside. `opened`: the call opened a bucket, whether it kept it
    or not. -/
structure Report (τ : Type) where
  message : Option ElasticFrameMessages := none
  opened : Bool := false
  handed : List (HandOver τ) := []
  accesses : List Access := []

/-- A receiver, for every bucket the calls whose fragments were accepted into it since it was
    opened and the call that last opened it, and the last call that was renumbered. -/
structure Traced (τ : Type) where
  receiver : Receiver
  accepted : Slot → List (Arrival τ)
  owner : Slot → Option (Arrival τ)
  latest : Option (Arrival τ)

variable {τ : Type}

/-- A receiver that nothing was sent to. -/
def Traced.fresh (τ : Type) (B H : UInt32) (mode : EFPReceiverMode) : Traced τ where
  receiver := Receiver.new B H mode
  accepted := fun _ => []
  owner := fun _ => none
  latest := none

/-- The accepted calls after a call with this message whose packet holds the fragment. -/
def Traced.accept (s : Traced τ) (a : Arrival τ) (f : Fragment) (message : ElasticFrameMessages) :
    Slot → List (Arrival τ) :=
  if message = .noError then
    Function.update s.accepted f.slot
      (if (s.receiver.mBucketList f.slot).mActive then s.accepted f.slot ++ [a] else [a])
  else s.accepted

/-- A call with this message opened a bucket: the slot was free and the fragment not too old. -/
def Traced.opens (s : Traced τ) (f : Fragment) (message : ElasticFrameMessages) : Bool :=
  !(s.receiver.mBucketList f.slot).mActive &&
    (message != .tooOldFragment && message != .receiverNotRunning)

/-- The last openings after such a call. -/
def Traced.owners (s : Traced τ) (a : Arrival τ) (f : Fragment) (message : ElasticFrameMessages) :
    Slot → Option (Arrival τ) :=
  if s.opens f message then Function.update s.owner f.slot (some a) else s.owner

/-- The last renumbered call after such a call: a fragment whose slot is free is renumbered. -/
def Traced.renumbers (s : Traced τ) (a : Arrival τ) (f : Fragment)
    (message : ElasticFrameMessages) : Option (Arrival τ) :=
  if !(s.receiver.mBucketList f.slot).mActive && message != .receiverNotRunning then some a
  else s.latest

/-- The hand-overs of a delivery. -/
def Traced.handOvers (s : Traced τ) (lTimeNow : ℤ) (handed : List Handed) : List (HandOver τ) :=
  handed.map fun h =>
    { slot := h.slot, frame := h.frame, accepted := s.accepted h.slot, lTimeNow }

/-- A delivery changes the receiver only. -/
def Traced.delivered (s : Traced τ) (d : Delivered) : Traced τ := { s with receiver := d.receiver }

/-- One event. -/
def Traced.step (s : Traced τ) : Event τ → Traced τ × Report τ
  | .receiveFragment a =>
      let out := s.receiver.receiveFragmentFromPtr a.pSubPacket a.lFromSource a.amb
      let s' : Traced τ :=
        { receiver := out.receiver
          accepted := (Fragment.ofPacket a.pSubPacket).elim s.accepted (s.accept a · out.message)
          owner := (Fragment.ofPacket a.pSubPacket).elim s.owner (s.owners a · out.message)
          latest := (Fragment.ofPacket a.pSubPacket).elim s.latest (s.renumbers a · out.message) }
      (s',
        { message := out.message
          opened := (Fragment.ofPacket a.pSubPacket).any (s.opens · out.message)
          handed := s'.handOvers a.amb.clockPass out.handed
          accesses := out.accesses })
  | .runToCompletionMethod lTimeNow =>
      let d := s.receiver.runToCompletionMethod lTimeNow
      (s.delivered d, { handed := s.handOvers lTimeNow d.handed })
  | .receiverWorkerPass lTimeNow =>
      let d := s.receiver.receiverWorkerPass lTimeNow
      (s.delivered d, { handed := s.handOvers lTimeNow d.handed })

/-- The machine of a receiver. -/
def receiverMachine (τ : Type) : Machine (Traced τ) (Event τ) (Report τ) := ⟨Traced.step⟩

/-! ## §4 The parts of a step -/

/-- The state after the fragment was unpacked and before any delivery. -/
def Traced.unpacked (s : Traced τ) (a : Arrival τ) (f : Fragment) : Traced τ :=
  let u := s.receiver.unpackFragment f a.lFromSource a.amb
  { receiver := u.receiver
    accepted := s.accept a f u.message
    owner := s.owners a f u.message
    latest := s.renumbers a f u.message }

/-- The state after a pass that makes its selection. -/
def Traced.concluded (s : Traced τ) (lTimeNow : ℤ) : Traced τ :=
  s.delivered (s.receiver.conclude (s.receiver.scan lTimeNow))

/-- The outcomes of `unpackFragment`, with what the trace records of them. -/
inductive Traced.Outcome (s : Traced τ) (a : Arrival τ) (f : Fragment) :
    ElasticFrameMessages → Traced τ → Prop where
  | tooOld (hidle : (s.receiver.mBucketList f.slot).mActive = false)
      (hold : s.receiver.candidate f.hSuperFrameNo =
        (s.receiver.mBucketList f.slot).mDeliveryOrder) :
      Outcome s a f .tooOldFragment
        { s with receiver := s.receiver.renumbered f.hSuperFrameNo, latest := some a }
  | refused (message : ElasticFrameMessages)
      (hidle : (s.receiver.mBucketList f.slot).mActive = false)
      (hnew : s.receiver.candidate f.hSuperFrameNo ≠
        (s.receiver.mBucketList f.slot).mDeliveryOrder)
      (hwhy : a.amb.allocates = false ∨ f.misplaced = true) (hmessage : message ≠ .tooOldFragment) :
      Outcome s a f message
        { s with
          receiver := (s.receiver.entered f).dropBucket f.slot
            (s.receiver.openedBucket f a.lFromSource a.amb)
          owner := Function.update s.owner f.slot (some a)
          latest := some a }
  | opened (hidle : (s.receiver.mBucketList f.slot).mActive = false)
      (hnew : s.receiver.candidate f.hSuperFrameNo ≠
        (s.receiver.mBucketList f.slot).mDeliveryOrder)
      (halloc : a.amb.allocates = true) (hplaced : f.misplaced = false) :
      Outcome s a f .noError
        { receiver := (s.receiver.entered f).setBucket f.slot
            (s.receiver.openedWith f a.lFromSource a.amb)
          accepted := Function.update s.accepted f.slot [a]
          owner := Function.update s.owner f.slot (some a)
          latest := some a }
  | outOfResources (hactive : (s.receiver.mBucketList f.slot).mActive = true)
      (hother : f.hSuperFrameNo ≠ (s.receiver.mBucketList f.slot).mSavedSuperFrameNo) :
      Outcome s a f .bufferOutOfResources s
  | outOfBounds (hactive : (s.receiver.mBucketList f.slot).mActive = true)
      (hsame : f.hSuperFrameNo = (s.receiver.mBucketList f.slot).mSavedSuperFrameNo)
      (hbad : (s.receiver.mBucketList f.slot).mOfFragmentNo < f.fragmentNo ∨
        f.hOfFragmentNo ≠ (s.receiver.mBucketList f.slot).mOfFragmentNo) :
      Outcome s a f .bufferOutOfBounds
        { s with receiver := s.receiver.dropBucket f.slot (s.receiver.mBucketList f.slot) }
  | duplicate (hactive : (s.receiver.mBucketList f.slot).mActive = true)
      (hsame : f.hSuperFrameNo = (s.receiver.mBucketList f.slot).mSavedSuperFrameNo)
      (hdup : f.fragmentNo ∈ (s.receiver.mBucketList f.slot).mHaveReceivedFragment) :
      Outcome s a f .duplicatePacketReceived s
  | added (hactive : (s.receiver.mBucketList f.slot).mActive = true)
      (hsame : f.hSuperFrameNo = (s.receiver.mBucketList f.slot).mSavedSuperFrameNo)
      (hpos : f.fragmentNo ≤ (s.receiver.mBucketList f.slot).mOfFragmentNo)
      (hof : f.hOfFragmentNo = (s.receiver.mBucketList f.slot).mOfFragmentNo)
      (hnew : f.fragmentNo ∉ (s.receiver.mBucketList f.slot).mHaveReceivedFragment) :
      Outcome s a f .noError
        { s with
          receiver :=
            { s.receiver.setBucket f.slot (s.receiver.filledBucket f) with
              mStreams := f.noteStream s.receiver.mStreams }
          accepted := Function.update s.accepted f.slot (s.accepted f.slot ++ [a]) }

/-- **What the trace records of an unpacking.** -/
theorem Traced.unpacked_outcome (s : Traced τ) (a : Arrival τ) (f : Fragment) :
    s.Outcome a f (s.receiver.unpackFragment f a.lFromSource a.amb).message (s.unpacked a f) := by
  have hstep := s.receiver.unpackFragment_step f a.lFromSource a.amb
  unfold Traced.unpacked
  generalize s.receiver.unpackFragment f a.lFromSource a.amb = u at hstep ⊢
  cases hstep with
  | tooOld hidle hold =>
    simpa [accept, owners, opens, renumbers, hidle] using Outcome.tooOld (a := a) hidle hold
  | refused hidle hnew hwhy =>
    -- neither message is one that the trace looks for
    have hmessage : (if a.amb.allocates = false then ElasticFrameMessages.memoryAllocationError
        else .bufferOutOfBounds) ∈ [ElasticFrameMessages.memoryAllocationError,
          .bufferOutOfBounds] := by
      split <;> simp
    generalize (if a.amb.allocates = false then ElasticFrameMessages.memoryAllocationError
      else .bufferOutOfBounds) = message at hmessage ⊢
    have hstep := Outcome.refused (s := s) (a := a) message hidle hnew hwhy (by
      rintro rfl
      simp at hmessage)
    rcases List.mem_pair.mp hmessage with rfl | rfl
    · simpa [accept, owners, opens, renumbers, hidle] using hstep
    · simpa [accept, owners, opens, renumbers, hidle] using hstep
  | opened hidle hnew halloc hplaced =>
    simpa [accept, owners, opens, renumbers, hidle] using
      Outcome.opened hidle hnew halloc hplaced
  | outOfResources hactive hother =>
    simpa [accept, owners, opens, renumbers, hactive] using
      Outcome.outOfResources (a := a) hactive hother
  | outOfBounds hactive hsame hbad =>
    simpa [accept, owners, opens, renumbers, hactive] using
      Outcome.outOfBounds (a := a) hactive hsame hbad
  | duplicate hactive hsame hpos hof hdup =>
    simpa [accept, owners, opens, renumbers, hactive] using
      Outcome.duplicate (a := a) hactive hsame hdup
  | added hactive hsame hpos hof hnew =>
    simpa [accept, owners, opens, renumbers, hactive] using
      Outcome.added (a := a) hactive hsame hpos hof hnew

/-- Outside the slot of the fragment nothing changes. -/
theorem Traced.Outcome.other {s s' : Traced τ} {a : Arrival τ} {f : Fragment}
    {message : ElasticFrameMessages} (h : s.Outcome a f message s') {i : Slot} (hi : i ≠ f.slot) :
    s'.receiver.mBucketList i = s.receiver.mBucketList i ∧ s'.accepted i = s.accepted i ∧
      s'.owner i = s.owner i := by
  cases h <;> simp [hi]

/-- The parts of a step. -/
inductive TraceStep (s : Traced τ) : Event τ → Traced τ × Report τ → Prop where
  | refused (a : Arrival τ) (message : ElasticFrameMessages) (accesses : List Access)
      (hmessage : message ∈ [ElasticFrameMessages.receiverNotRunning, .type0Frame,
        .frameSizeMismatch, .unknownFrameType])
      (hwhy : s.receiver.Running → Fragment.ofPacket a.pSubPacket = none)
      (haccesses : accesses ⊆ [Access.packet 0 1 a.pSubPacket.length]) :
      TraceStep s (.receiveFragment a) (s, { message, accesses })
  | cut (a : Arrival τ) (hpacket : Fragment.ofPacket a.pSubPacket = none)
      (hsize : ElasticFrameType2.size ≤ a.pSubPacket.length) (d : Delivered)
      (hd : d = s.receiver.runIfToCompletion a.amb.clockPass) :
      TraceStep s (.receiveFragment a)
        (s.delivered d,
          { message := ElasticFrameMessages.type2FrameOutOfBounds
            handed := s.handOvers a.amb.clockPass d.handed
            accesses :=
              [Access.packet 0 1 a.pSubPacket.length,
                Access.packet 0 ElasticFrameType2.size a.pSubPacket.length] })
  | fragment (a : Arrival τ) (f : Fragment) (header : ℕ)
      (hpacket : Fragment.ofPacket a.pSubPacket = some f) (d : Delivered)
      (hd : d = (s.unpacked a f).receiver.runIfToCompletion a.amb.clockPass) :
      TraceStep s (.receiveFragment a)
        ((s.unpacked a f).delivered d,
          { message := (s.receiver.unpackFragment f a.lFromSource a.amb).message
            opened := s.opens f (s.receiver.unpackFragment f a.lFromSource a.amb).message
            handed := (s.unpacked a f).handOvers a.amb.clockPass d.handed
            accesses := Access.packet 0 1 a.pSubPacket.length ::
              packetReads a.pSubPacket header f ++
                (s.receiver.unpackFragment f a.lFromSource a.amb).accesses })
  | runToCompletion (lTimeNow : ℤ) (d : Delivered)
      (hd : d = s.receiver.runToCompletionMethod lTimeNow) :
      TraceStep s (.runToCompletionMethod lTimeNow)
        (s.delivered d, { handed := s.handOvers lTimeNow d.handed })
  | worker (lTimeNow : ℤ) (d : Delivered) (hd : d = s.receiver.receiverWorkerPass lTimeNow) :
      TraceStep s (.receiverWorkerPass lTimeNow)
        (s.delivered d, { handed := s.handOvers lTimeNow d.handed })

/-- **A step is made of its parts.** -/
theorem Traced.step_parts (s : Traced τ) (e : Event τ) : TraceStep s e (s.step e) := by
  cases e with
  | runToCompletionMethod lTimeNow => exact .runToCompletion lTimeNow _ rfl
  | receiverWorkerPass lTimeNow => exact .worker lTimeNow _ rfl
  | receiveFragment a =>
    have hstep := s.receiver.receiveFragmentFromPtr_step a.pSubPacket a.lFromSource a.amb
    simp only [Traced.step]
    generalize s.receiver.receiveFragmentFromPtr a.pSubPacket a.lFromSource a.amb = out at hstep ⊢
    cases hstep with
    | refused message accesses hmessage haccesses =>
      -- a refused packet leaves no trace: it is not accepted, opens nothing and is not renumbered
      have htrace : (Fragment.ofPacket a.pSubPacket).elim s.accepted (s.accept a · message) =
            s.accepted ∧
          (Fragment.ofPacket a.pSubPacket).any (s.opens · message) = false ∧
          (Fragment.ofPacket a.pSubPacket).elim s.owner (s.owners a · message) = s.owner ∧
          (Fragment.ofPacket a.pSubPacket).elim s.latest (s.renumbers a · message) =
            s.latest := by
        rcases hmessage with ⟨rfl, -⟩ | ⟨hpacket, -⟩
        · cases Fragment.ofPacket a.pSubPacket with
          | none => exact ⟨rfl, rfl, rfl, rfl⟩
          | some f => simp [Traced.accept, Traced.opens, Traced.owners, Traced.renumbers]
        · rw [hpacket]
          exact ⟨rfl, rfl, rfl, rfl⟩
      obtain ⟨haccepted, hopened, howner, hlatest⟩ := htrace
      simp only [haccepted, hopened, howner, hlatest]
      refine .refused a message accesses ?_ ?_ haccesses
      · rcases hmessage with ⟨rfl, -⟩ | ⟨-, hmem⟩
        · exact List.mem_cons_self
        · exact List.mem_cons_of_mem _ hmem
      · intro hrunning
        rcases hmessage with ⟨-, hstopped⟩ | ⟨hpacket, -⟩
        · exact absurd hrunning hstopped
        · exact hpacket
    | cut hpacket hsize =>
      simp only [hpacket]
      exact .cut a hpacket hsize _ rfl
    | fragment f header hpacket =>
      simp only [hpacket]
      exact .fragment a f header hpacket _ rfl

/-- **A running receiver unpacks the fragment that a packet holds**, and then makes its pass. -/
theorem Traced.step_fragment {s : Traced τ} (hrunning : s.receiver.Running) {a : Arrival τ}
    {f : Fragment} (hpacket : Fragment.ofPacket a.pSubPacket = some f) :
    let d := (s.unpacked a f).receiver.runIfToCompletion a.amb.clockPass
    ∃ header, s.step (.receiveFragment a) =
      ((s.unpacked a f).delivered d,
        { message := (s.receiver.unpackFragment f a.lFromSource a.amb).message
          opened := s.opens f (s.receiver.unpackFragment f a.lFromSource a.amb).message
          handed := (s.unpacked a f).handOvers a.amb.clockPass d.handed
          accesses := Access.packet 0 1 a.pSubPacket.length ::
            packetReads a.pSubPacket header f ++
              (s.receiver.unpackFragment f a.lFromSource a.amb).accesses }) := by
  have hparts := s.step_parts (.receiveFragment a)
  generalize s.step (.receiveFragment a) = out at hparts ⊢
  cases hparts with
  | refused _ message accesses hmessage hwhy haccesses =>
    rw [hwhy hrunning] at hpacket
    exact absurd hpacket (by simp)
  | cut _ hnone hsize d hd =>
    rw [hnone] at hpacket
    exact absurd hpacket (by simp)
  | fragment _ f' header hpacket' d hd =>
    obtain rfl := Option.some.inj (hpacket'.symm.trans hpacket)
    subst hd
    exact ⟨header, rfl⟩

/-- What is seen of such a call. -/
theorem Traced.step_of_fragment {s : Traced τ} (hrunning : s.receiver.Running) {a : Arrival τ}
    {f : Fragment} (hpacket : Fragment.ofPacket a.pSubPacket = some f) :
    let d := (s.unpacked a f).receiver.runIfToCompletion a.amb.clockPass
    (s.step (.receiveFragment a)).1 = (s.unpacked a f).delivered d ∧
      (s.step (.receiveFragment a)).2.message =
        some (s.receiver.unpackFragment f a.lFromSource a.amb).message ∧
      (s.step (.receiveFragment a)).2.handed =
        (s.unpacked a f).handOvers a.amb.clockPass d.handed := by
  obtain ⟨header, hstep⟩ := Traced.step_fragment hrunning hpacket
  rw [hstep]
  exact ⟨rfl, rfl, rfl⟩

/-- The accesses of the unpacking are accesses of the call. -/
theorem Traced.accesses_of_fragment {s : Traced τ} (hrunning : s.receiver.Running)
    {a : Arrival τ} {f : Fragment} (hpacket : Fragment.ofPacket a.pSubPacket = some f) :
    ∀ x ∈ (s.receiver.unpackFragment f a.lFromSource a.amb).accesses,
      x ∈ (s.step (.receiveFragment a)).2.accesses := by
  intro x hx
  obtain ⟨header, hstep⟩ := Traced.step_fragment hrunning hpacket
  rw [hstep]
  exact List.mem_append_right _ hx

/-! ## §5 Rules for steps -/

/-- What a pass of either engine can be: the scan, or nothing. -/
inductive Receiver.Passes (r : Receiver) (lTimeNow : ℤ) : Delivered → Prop where
  | idle : Passes r lTimeNow { receiver := r, handed := [] }
  | scan : Passes r lTimeNow (r.conclude (r.scan lTimeNow))

theorem Receiver.runToCompletionMethod_passes {r : Receiver} (hdistinct : r.SlotsDistinct)
    (lTimeNow : ℤ) : r.Passes lTimeNow (r.runToCompletionMethod lTimeNow) := by
  rw [r.runToCompletionMethod_eq hdistinct]
  exact .scan

theorem Receiver.runIfToCompletion_passes {r : Receiver} (hdistinct : r.SlotsDistinct)
    (lTimeNow : ℤ) : r.Passes lTimeNow (r.runIfToCompletion lTimeNow) := by
  unfold runIfToCompletion
  split
  · exact r.runToCompletionMethod_passes hdistinct lTimeNow
  · exact .idle

theorem Receiver.receiverWorkerPass_passes {r : Receiver} (hdistinct : r.SlotsDistinct)
    (lTimeNow : ℤ) : r.Passes lTimeNow (r.receiverWorkerPass lTimeNow) := by
  rw [r.receiverWorkerPass_eq hdistinct]
  split
  · exact .idle
  · exact .scan

/-- A delivery pass leaves the stream table alone. -/
theorem Receiver.Passes.streams {r : Receiver} {lTimeNow : ℤ} {d : Delivered}
    (h : r.Passes lTimeNow d) : d.receiver.mStreams = r.mStreams := by
  cases h with
  | idle => rfl
  | scan => rfl

/-- The hand-over comes out of this state: its bucket was selected by a pass. -/
def Traced.HandsOver (s : Traced τ) (h : HandOver τ) : Prop :=
  ∃ order d, (order, h.slot) ∈ (s.receiver.scan h.lTimeNow).selected ∧
    (s.receiver.mBucketList h.slot).mBucketData = some d ∧
    h.frame = (s.receiver.mBucketList h.slot).assemble d ∧ h.accepted = s.accepted h.slot

/-- What a pass hands out was selected by the scan. -/
private theorem handsOver_of_passes {s : Traced τ} {lTimeNow : ℤ} {d : Delivered}
    (hpass : s.receiver.Passes lTimeNow d) {h : HandOver τ}
    (hh : h ∈ s.handOvers lTimeNow d.handed) : s.HandsOver h := by
  cases hpass with
  | idle => simp [Traced.handOvers] at hh
  | scan =>
    simp only [Traced.handOvers, Receiver.conclude, Receiver.collect, List.mem_map,
      List.mem_filterMap, Option.map_eq_some_iff] at hh
    obtain ⟨_, ⟨e, he, sf, hsf, rfl⟩, rfl⟩ := hh
    exact ⟨e.1, sf, he, hsf, rfl, rfl⟩

section Rules

variable {I : Traced τ → Prop} {s : Traced τ} {e : Event τ}

/-- A pass keeps what the scan keeps. -/
private theorem keep_of_passes (hkeep : ∀ s lTimeNow, I s → I (s.concluded lTimeNow)) (hI : I s)
    {lTimeNow : ℤ} {d : Delivered} (hpass : s.receiver.Passes lTimeNow d) : I (s.delivered d) := by
  cases hpass with
  | idle => exact hI
  | scan => exact hkeep s lTimeNow hI

/-- **Step rule**: what the unpacking and the scan keep, the step keeps. -/
theorem Traced.step_rule (hdistinct : ∀ s, I s → s.receiver.SlotsDistinct)
    (hkeep : ∀ s lTimeNow, I s → I (s.concluded lTimeNow)) (hI : I s)
    (hunpack : ∀ a f, e = .receiveFragment a → Fragment.ofPacket a.pSubPacket = some f →
      I (s.unpacked a f)) :
    I (s.step e).1 := by
  have hparts := s.step_parts e
  generalize s.step e = out at hparts ⊢
  cases hparts with
  | refused => exact hI
  | cut a _ _ d hd =>
    -- nothing was unpacked, and the delivery runs all the same
    subst hd
    exact keep_of_passes hkeep hI (Receiver.runIfToCompletion_passes (hdistinct s hI) _)
  | fragment a f header hpacket d hd =>
    subst hd
    have hI' := hunpack a f rfl hpacket
    exact keep_of_passes hkeep hI' (Receiver.runIfToCompletion_passes (hdistinct _ hI') _)
  | runToCompletion lTimeNow d hd =>
    subst hd
    exact keep_of_passes hkeep hI (Receiver.runToCompletionMethod_passes (hdistinct s hI) _)
  | worker lTimeNow d hd =>
    subst hd
    exact keep_of_passes hkeep hI (Receiver.receiverWorkerPass_passes (hdistinct s hI) _)

/-- **Hand-over rule**: a superframe that a step hands out was selected in the state before the
    step or in the one after its unpacking; both satisfy the invariant. -/
theorem Traced.step_handed (hdistinct : ∀ s, I s → s.receiver.SlotsDistinct) (hI : I s)
    (hunpack : ∀ a f, e = .receiveFragment a → Fragment.ofPacket a.pSubPacket = some f →
      I (s.unpacked a f))
    {h : HandOver τ} (hh : h ∈ (s.step e).2.handed) : ∃ s', I s' ∧ s'.HandsOver h := by
  have hparts := s.step_parts e
  generalize s.step e = out at hparts hh
  cases hparts with
  | refused => exact absurd hh List.not_mem_nil
  | cut a _ _ d hd =>
    subst hd
    exact ⟨s, hI, handsOver_of_passes (Receiver.runIfToCompletion_passes (hdistinct s hI) _) hh⟩
  | fragment a f header hpacket d hd =>
    subst hd
    have hI' := hunpack a f rfl hpacket
    exact ⟨_, hI', handsOver_of_passes (Receiver.runIfToCompletion_passes (hdistinct _ hI') _) hh⟩
  | runToCompletion lTimeNow d hd =>
    subst hd
    exact ⟨s, hI, handsOver_of_passes (Receiver.runToCompletionMethod_passes (hdistinct s hI) _) hh⟩
  | worker lTimeNow d hd =>
    subst hd
    exact ⟨s, hI, handsOver_of_passes (Receiver.receiverWorkerPass_passes (hdistinct s hI) _) hh⟩

end Rules

/-! ## §6 Invariants of the buckets in use -/

/-- A statement about a bucket in use and the calls accepted into it, for all of them. -/
def Traced.InUse (s : Traced τ) (P : Slot → Bucket → List (Arrival τ) → Prop) : Prop :=
  ∀ i, (s.receiver.mBucketList i).mActive = true → P i (s.receiver.mBucketList i) (s.accepted i)

/-- **Bucket rule**: what holds of a bucket just opened, and is kept when a fragment is added, is
    kept by unpacking. -/
theorem Traced.InUse.unpacked {s : Traced τ} {P : Slot → Bucket → List (Arrival τ) → Prop}
    (h : s.InUse P) {a : Arrival τ} {f : Fragment}
    (hopened : (s.receiver.mBucketList f.slot).mActive = false →
      s.receiver.candidate f.hSuperFrameNo ≠ (s.receiver.mBucketList f.slot).mDeliveryOrder →
      a.amb.allocates = true → f.misplaced = false →
      P f.slot (s.receiver.openedWith f a.lFromSource a.amb) [a])
    (hadded : (s.receiver.mBucketList f.slot).mActive = true →
      f.hSuperFrameNo = (s.receiver.mBucketList f.slot).mSavedSuperFrameNo →
      f.fragmentNo ≤ (s.receiver.mBucketList f.slot).mOfFragmentNo →
      f.hOfFragmentNo = (s.receiver.mBucketList f.slot).mOfFragmentNo →
      f.fragmentNo ∉ (s.receiver.mBucketList f.slot).mHaveReceivedFragment →
      P f.slot (s.receiver.mBucketList f.slot) (s.accepted f.slot) →
      P f.slot (s.receiver.filledBucket f) (s.accepted f.slot ++ [a])) :
    (s.unpacked a f).InUse P := by
  have hstep := s.unpacked_outcome a f
  generalize s.unpacked a f = s' at hstep ⊢
  generalize (s.receiver.unpackFragment f a.lFromSource a.amb).message = message at hstep
  intro i hactive
  by_cases hi : i = f.slot
  case neg =>
    -- a bucket of another slot
    obtain ⟨hlist, haccepted, -⟩ := hstep.other hi
    rw [hlist] at hactive ⊢
    rw [haccepted]
    exact h i hactive
  case pos =>
    subst hi
    -- in use afterwards: it was opened, or it was in use before
    cases hstep with
    | tooOld hidle hold => exact absurd (hidle.symm.trans hactive) Bool.false_ne_true
    | refused => exact absurd hactive (by simp)
    | opened hidle hnew halloc hplaced => simpa using hopened hidle hnew halloc hplaced
    | outOfResources hactive' hother => exact h f.slot hactive'
    | outOfBounds => exact absurd hactive (by simp)
    | duplicate hactive' hsame hdup => exact h f.slot hactive'
    | added hactive' hsame hpos hof hnew =>
      simpa using hadded hactive' hsame hpos hof hnew (h f.slot hactive')

/-- A bucket in use after a pass was not selected, and nothing happened to it. -/
theorem Traced.concluded_of_active {s : Traced τ} {lTimeNow : ℤ} {i : Slot}
    (hactive : ((s.concluded lTimeNow).receiver.mBucketList i).mActive = true) :
    i ∉ (s.receiver.scan lTimeNow).selected.map Prod.snd ∧
      (s.concluded lTimeNow).receiver.mBucketList i = s.receiver.mBucketList i := by
  simp only [concluded, delivered, Receiver.conclude, Receiver.release] at hactive ⊢
  split at hactive
  case isTrue => exact absurd hactive Bool.false_ne_true
  case isFalse hi => exact ⟨hi, if_neg hi⟩

/-- A bucket keeps its order and its number in a pass, and is not brought into use. -/
theorem Traced.concluded_kept (s : Traced τ) (lTimeNow : ℤ) (i : Slot) :
    ((s.concluded lTimeNow).receiver.mBucketList i).mDeliveryOrder =
        (s.receiver.mBucketList i).mDeliveryOrder ∧
      ((s.concluded lTimeNow).receiver.mBucketList i).mSavedSuperFrameNo =
        (s.receiver.mBucketList i).mSavedSuperFrameNo ∧
      ((s.receiver.mBucketList i).mActive = false →
        ((s.concluded lTimeNow).receiver.mBucketList i).mActive = false) := by
  simp only [concluded, delivered, Receiver.conclude, Receiver.release]
  split
  · exact ⟨rfl, rfl, fun _ => rfl⟩
  · exact ⟨rfl, rfl, id⟩

/-- A pass keeps what holds of the buckets in use. -/
theorem Traced.InUse.concluded {s : Traced τ} {P : Slot → Bucket → List (Arrival τ) → Prop}
    (h : s.InUse P) (lTimeNow : ℤ) : (s.concluded lTimeNow).InUse P := by
  intro i hactive
  have hsame := (Traced.concluded_of_active hactive).2
  rw [hsame] at hactive ⊢
  exact h i hactive

end ElasticFrame
