import ElasticFrame.Receiver.Store

/-!
# Refused Openings

A fragment that finds its slot free and is refused all the same, because there is no memory or
because it lies behind the count that it announces, is undone in part: the entry leaves the map
and the bucket is inactive. The order that the slot got stays, and so do the counters of the
renumbering.

- `Receiver.candidate_again`: a number that was just renumbered gets the same order again
- `Traced.Unnoticed`: no later run can tell that a call was made
- `refused_noticed`: a refused opening is always noticed
-/

namespace ElasticFrame

open ElasticFrame.Lib

/-! ## §1 Free slots -/

/-- A number that was just renumbered gets the same order again. -/
theorem Receiver.candidate_again {r : Receiver} (hfirst : r.mSuperFrameFirstTime = false) :
    r.candidate r.mOldSuperFrameNumber = r.mSuperFrameRecalc := by
  apply UInt64.toBitVec_inj.mp
  rw [Receiver.candidate_next _ hfirst, Serial.widen, BitVec.sub_self]
  exact BitVec.add_zero _

/-- In a free slot a fragment is too old when its order is the one that the slot has. -/
theorem Receiver.tooOld_iff {r : Receiver} {f : Fragment}
    (hidle : (r.mBucketList f.slot).mActive = false) (lFromSource : UInt8) (amb : Ambient) :
    (r.unpackFragment f lFromSource amb).message = .tooOldFragment ↔
      r.candidate f.hSuperFrameNo = (r.mBucketList f.slot).mDeliveryOrder := by
  have hstep := Receiver.unpackFragment_freeStep hidle lFromSource amb
  generalize (r.unpackFragment f lFromSource amb).message = message at hstep ⊢
  generalize (r.unpackFragment f lFromSource amb).receiver = r' at hstep
  cases hstep with
  | tooOld hold => exact iff_of_true rfl hold
  | refused hnew hwhy =>
    refine iff_of_false ?_ hnew
    split <;> decide
  | opened hnew halloc hplaced => exact iff_of_false (by simp) hnew

/-- What stays behind of a number that was renumbered for a slot: the slot is free under the order
    that the number would get again. -/
structure Receiver.Spent (r : Receiver) (n : UInt16) : Prop where
  idle : (r.mBucketList (slotOf n)).mActive = false
  order : (r.mBucketList (slotOf n)).mDeliveryOrder = r.mSuperFrameRecalc
  old : r.mOldSuperFrameNumber = n
  next : r.mSuperFrameFirstTime = false

/-- A refused opening leaves its number spent. -/
theorem Receiver.spent_of_refused {r : Receiver} {f : Fragment} {lFromSource : UInt8}
    {amb : Ambient} (hidle : (r.mBucketList f.slot).mActive = false)
    (hrefused : (r.unpackFragment f lFromSource amb).message ∈
      [ElasticFrameMessages.bufferOutOfBounds, .memoryAllocationError]) :
    (r.unpackFragment f lFromSource amb).receiver.Spent f.hSuperFrameNo ∧
      r.candidate f.hSuperFrameNo ≠ (r.mBucketList f.slot).mDeliveryOrder := by
  have hstep := Receiver.unpackFragment_freeStep hidle lFromSource amb
  generalize (r.unpackFragment f lFromSource amb).message = message at hstep hrefused
  generalize (r.unpackFragment f lFromSource amb).receiver = r' at hstep ⊢
  cases hstep with
  | tooOld hold => exact absurd hrefused (by simp)
  | refused hnew hwhy =>
    refine ⟨⟨?_, ?_, rfl, rfl⟩, hnew⟩
    · show (Function.update r.mBucketList f.slot _ f.slot).mActive = false
      rw [Function.update_self]
    · show (Function.update r.mBucketList f.slot _ f.slot).mDeliveryOrder = _
      rw [Function.update_self]
      rfl
  | opened hnew halloc hplaced => exact absurd hrefused (by simp)

/-- A delivery pass does not give the number back. -/
theorem Receiver.Spent.pass {τ : Type} {s : Traced τ} {n : UInt16} (h : s.receiver.Spent n)
    {lTimeNow : ℤ} {d : Delivered} (hpass : s.receiver.Passes lTimeNow d) :
    d.receiver.Spent n := by
  cases hpass with
  | idle => exact h
  | scan =>
    obtain ⟨horder, -, hidle⟩ := s.concluded_kept lTimeNow (slotOf n)
    exact ⟨hidle h.idle, horder.trans h.order, h.old, h.next⟩

/-- **A fragment of a spent number is too old**, whatever it is. -/
theorem Receiver.Spent.tooOld {r : Receiver} {g : Fragment} (h : r.Spent g.hSuperFrameNo)
    (lFromSource : UInt8) (amb : Ambient) :
    (r.unpackFragment g lFromSource amb).message = .tooOldFragment := by
  apply (Receiver.tooOld_iff h.idle lFromSource amb).mpr
  have hagain := Receiver.candidate_again h.next
  rw [h.old] at hagain
  rw [hagain]
  exact h.order.symm

/-! ## §2 Two runs -/

section Runs

variable {τ : Type}

/-- What is seen of one event: the result of the call, and the superframes handed out. -/
def Report.seen (o : Report τ) : Option ElasticFrameMessages × List SuperFrame :=
  (o.message, o.handed.map HandOver.frame)

/-- The superframes handed out in these reports. -/
def framesOf (os : List (Report τ)) : List SuperFrame :=
  (os.flatMap Report.handed).map HandOver.frame

/-- The frames of the hand-overs are those of the pass. -/
theorem Traced.handOvers_frames (s : Traced τ) (lTimeNow : ℤ) (handed : List Handed) :
    (s.handOvers lTimeNow handed).map HandOver.frame = handed.map Handed.frame := by
  simp [Traced.handOvers, Function.comp_def]

theorem framesOf_singleton (o : Report τ) : framesOf [o] = o.handed.map HandOver.frame := by
  simp [framesOf]

theorem framesOf_append (os os' : List (Report τ)) :
    framesOf (os ++ os') = framesOf os ++ framesOf os' := by
  simp [framesOf]

theorem framesOf_concat (os : List (Report τ)) (o : Report τ) :
    framesOf (os ++ [o]) = framesOf os ++ o.handed.map HandOver.frame := by
  rw [framesOf_append, framesOf_singleton]

/-- Whatever happens later, it looks the same as if the call had never been made. -/
def Traced.Unnoticed (s : Traced τ) (a : Arrival τ) : Prop :=
  ∀ later : List (Event τ),
    ((receiverMachine τ).outputs (s.step (.receiveFragment a)).1 later).map Report.seen =
      ((receiverMachine τ).outputs s later).map Report.seen

variable (B H : UInt32) (mode : EFPReceiverMode) (es : List (Event τ))

/-- After a refused opening every fragment of the superframe is too old; without it none would
    be. -/
theorem tooOld_of_refused {a : Arrival τ} {f : Fragment}
    (hpacket : Fragment.ofPacket a.pSubPacket = some f) :
    let s := (receiverMachine τ).run (Traced.fresh τ B H mode) es
    (s.receiver.mBucketList f.slot).mActive = false →
    (s.receiver.unpackFragment f a.lFromSource a.amb).message ∈
      [ElasticFrameMessages.bufferOutOfBounds, .memoryAllocationError] →
    ∀ (b : Arrival τ) (g : Fragment), Fragment.ofPacket b.pSubPacket = some g →
      g.hSuperFrameNo = f.hSuperFrameNo →
      ((s.step (.receiveFragment a)).1.step (.receiveFragment b)).2.message =
          some .tooOldFragment ∧
        (s.step (.receiveFragment b)).2.message ≠ some .tooOldFragment := by
  intro s hidle hrefused b g hb hsame
  have hcoherent : s.receiver.Coherent := coherent_run B H mode es
  have hrunning : s.receiver.Running := (configured_run B H mode es).running
  have hslot : g.slot = f.slot := congrArg slotOf hsame
  obtain ⟨hspent, hnew⟩ := Receiver.spent_of_refused hidle hrefused
  constructor
  · -- the pass at the end of the refused call leaves the number spent
    have hafter := (Traced.step_of_fragment hrunning hpacket).1
    have hpass := Receiver.runIfToCompletion_passes
      (hcoherent.unpack f a.lFromSource a.amb).slotsDistinct a.amb.clockPass
    have hspent' : (s.step (.receiveFragment a)).1.receiver.Spent g.hSuperFrameNo := by
      rw [hafter, hsame]
      exact Receiver.Spent.pass (s := s.unpacked a f) hspent hpass
    have hrunning' : (s.step (.receiveFragment a)).1.receiver.Running := by
      have hconf := configured_run B H mode (es ++ [.receiveFragment a])
      rw [Machine.run_concat] at hconf
      exact hconf.running
    rw [(Traced.step_of_fragment hrunning' hb).2.1, hspent'.tooOld]
  · rw [(Traced.step_of_fragment hrunning hb).2.1]
    intro htooOld
    have hidle' : (s.receiver.mBucketList g.slot).mActive = false := by rw [hslot]; exact hidle
    have horder := (Receiver.tooOld_iff hidle' _ _).mp (Option.some.inj htooOld)
    rw [hsame, hslot] at horder
    exact hnew horder

/-- **A refused opening is always noticed**: in every reachable state and for every packet that is
    refused when its slot is free, later calls show it. -/
theorem refused_noticed {a : Arrival τ} {f : Fragment}
    (hpacket : Fragment.ofPacket a.pSubPacket = some f) :
    let s := (receiverMachine τ).run (Traced.fresh τ B H mode) es
    (s.receiver.mBucketList f.slot).mActive = false →
    (s.receiver.unpackFragment f a.lFromSource a.amb).message ∈
      [ElasticFrameMessages.bufferOutOfBounds, .memoryAllocationError] →
    ¬ s.Unnoticed a := by
  intro s hidle hrefused hunnoticed
  -- the same packet once more
  have htwice := tooOld_of_refused B H mode es hpacket hidle hrefused a f hpacket rfl
  have hseen := hunnoticed [.receiveFragment a]
  have hmessage : ((s.step (.receiveFragment a)).1.step (.receiveFragment a)).2.message =
      (s.step (.receiveFragment a)).2.message :=
    congrArg Prod.fst (List.cons.inj hseen).1
  exact htwice.2 (hmessage.symm.trans htwice.1)

end Runs

/-- A type1 packet of superframe 5 with a position behind the count that it announces. -/
def misplacedArrival : Arrival Unit where
  label := ()
  pSubPacket := ElasticFrameType1.toBytes
    { hFrameType := 1, hStream := 1, hSuperFrameNo := 5, hFragmentNo := 1, hOfFragmentNo := 0 } ++
      [7]
  lFromSource := 0
  amb := { clockOpen := 0, clockPass := 0 }

/-- The only fragment of superframe 5. -/
def validArrival : Arrival Unit where
  label := ()
  pSubPacket := ElasticFrameType2.toBytes
    { hFrameType := 2, hStreamID := 1, hDataContent := 0x20, hSizeOfData := 1, hSuperFrameNo := 5,
      hOfFragmentNo := 0, hType1PacketSize := 1, hPts := 1, hDtsPtsDiff := 0, hCode := 0 } ++ [7]
  lFromSource := 0
  amb := { clockOpen := 0, clockPass := 0 }

theorem refused_noticed_misplaced :
    ¬ (Traced.fresh Unit 100 0 .RUN_TO_COMPLETION).Unnoticed misplacedArrival :=
  refused_noticed 100 0 .RUN_TO_COMPLETION []
    (f := fragmentType1 misplacedArrival.pSubPacket) (by decide) rfl (by decide)

/-- The misplaced packet is refused, and then the valid one is too old; without the misplaced packet
    it is accepted and its superframe handed out. -/
theorem misplaced_then_valid :
    let s := Traced.fresh Unit 100 0 .RUN_TO_COMPLETION
    let refused := s.step (.receiveFragment misplacedArrival)
    let after := refused.1.step (.receiveFragment validArrival)
    let without := s.step (.receiveFragment validArrival)
    refused.2.message = some .bufferOutOfBounds ∧
      after.2.message = some .tooOldFragment ∧ after.2.handed.length = 0 ∧
      without.2.message = some .noError ∧ without.2.handed.length = 1 ∧
      ¬ s.Unnoticed misplacedArrival := by
  refine ⟨by decide +kernel, by decide +kernel, by decide +kernel, by decide +kernel,
    by decide +kernel, fun hunnoticed => ?_⟩
  have hseen := hunnoticed [.receiveFragment validArrival]
  have hmessages := congrArg (fun os => os.map Prod.fst) hseen
  revert hmessages
  decide +kernel

end ElasticFrame
