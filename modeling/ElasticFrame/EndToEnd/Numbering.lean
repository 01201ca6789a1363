import ElasticFrame.Receiver.Store
import ElasticFrame.Sender.Fragments

/-!
# Numbering

A receiver that is given the fragments of a transmission rebuilds a 64-bit order from the 16-bit
superframe numbers. This file says what these orders are: the order of a superframe is its rank,
counted from the number of the superframe that arrived first, as long as every fragment that is
renumbered is less than `2 ^ 15` superframes away from the last one that was.

- `Numbered`: the invariant, over the renumbering and over the slots
- `Numbered.candidate`: the next order is a rank
- `Numbered.unpacked`, `Numbered.concluded`: it is kept
-/

namespace ElasticFrame

open ElasticFrame.Lib

/-! ## §1 Arrivals -/

/-- The superframe of a call whose packet is labelled with its superframe and its position. -/
def Arrival.superframe (a : Arrival (ℕ × ℕ)) : ℕ := a.label.1

/-- The calls among the events. -/
def arrivals {τ : Type} (es : List (Event τ)) : List (Arrival τ) :=
  es.filterMap fun
    | .receiveFragment a => some a
    | _ => none

theorem arrivals_append {τ : Type} (es es' : List (Event τ)) :
    arrivals (es ++ es') = arrivals es ++ arrivals es' := List.filterMap_append

theorem mem_arrivals {τ : Type} {es : List (Event τ)} {a : Arrival τ} :
    a ∈ arrivals es ↔ .receiveFragment a ∈ es := by
  unfold arrivals
  rw [List.mem_filterMap]
  constructor
  · rintro ⟨e, he, hsome⟩
    cases e with
    | receiveFragment b => exact Option.some.inj hsome ▸ he
    | runToCompletionMethod lTimeNow => exact absurd hsome (by simp)
    | receiverWorkerPass lTimeNow => exact absurd hsome (by simp)
  · intro ha
    exact ⟨_, ha, rfl⟩

/-- The only fragment of a superframe with one byte of data, as it arrives at time 0. -/
def oneByteArrival (k : ℕ) (hSuperFrameNo : UInt16) : Arrival (ℕ × ℕ) where
  label := (k, 0)
  pSubPacket := ElasticFrameType2.toBytes
    { hFrameType := 2, hStreamID := 1, hDataContent := 0x20, hSizeOfData := 1, hSuperFrameNo,
      hOfFragmentNo := 0, hType1PacketSize := 1, hPts := 1, hDtsPtsDiff := 0, hCode := 0 } ++ [7]
  lFromSource := 0
  amb := { clockOpen := 0, clockPass := 0 }

namespace Transmission

variable (T : Transmission)

/-- The packet of the call is the one that its label names. -/
def Emits (a : Arrival (ℕ × ℕ)) : Prop := (T.packets a.label.1)[a.label.2]? = some a.pSubPacket

instance (a : Arrival (ℕ × ℕ)) : Decidable (T.Emits a) := inferInstanceAs (Decidable (_ = _))

variable {T}

/-- The fragment in an emitted packet. -/
theorem Emits.fragment {a : Arrival (ℕ × ℕ)} (h : T.Emits a) :
    ∃ f, (T.parcel a.superframe).fragments[a.label.2]? = some f ∧
      Fragment.ofPacket a.pSubPacket = some f ∧ f.hSuperFrameNo = T.number a.superframe ∧
      f.misplaced = false := by
  obtain ⟨f, hf, hpacket⟩ := T.ofPacket_eq h
  have hmem := List.mem_of_getElem? hf
  refine ⟨f, hf, hpacket, ?_, ((T.parcel a.superframe).position_le hmem).2.2⟩
  rw [((T.parcel a.superframe).uniform hmem).1]
  exact T.parcel_number _

/-- It has the number of its superframe. -/
theorem Emits.number {a : Arrival (ℕ × ℕ)} (h : T.Emits a) {f : Fragment}
    (hpacket : Fragment.ofPacket a.pSubPacket = some f) :
    f.hSuperFrameNo = T.number a.superframe := by
  obtain ⟨f', -, hpacket', hnumber, -⟩ := h.fragment
  obtain rfl := Option.some.inj (hpacket'.symm.trans hpacket)
  exact hnumber

private theorem oneByteEach_single (n : UInt16) (k : ℕ) :
    ((oneByteEach n).sender k).Single ((oneByteEach n).calls k) := by
  apply Nat.le_trans _ ((oneByteEach n).sender k).mtu_ge
  show 1 + 32 ≤ 255
  decide

/-- Where nothing is cut, the padding is what it was at first. -/
private theorem oneByteEach_padding (n : UInt16) (k : ℕ) : (oneByteEach n).padding k = {} := by
  have hnone : ∀ k, ((oneByteEach n).sender k).needsType3 ((oneByteEach n).calls k) = false :=
    fun k => Sender.needsType3_of_single _ _ (oneByteEach_single n k)
  induction k with
  | zero =>
    rw [padding, Sender.padding, hnone 0, if_neg Bool.false_ne_true]
    rfl
  | succ k ih => exact ((oneByteEach n).padding_succ (hnone (k + 1))).trans ih

/-- A superframe of one byte is one type2 packet. -/
theorem oneByteEach_packets (n : UInt16) (k : ℕ) : (oneByteEach n).packets k =
    [(oneByteArrival k ((oneByteEach n).number k)).pSubPacket] := by
  have hsingle := oneByteEach_single n k
  -- the parcel is not cut
  have huncut : ((oneByteEach n).parcel k).size = 1 ∧ ((oneByteEach n).parcel k).full = 0 ∧
      ((oneByteEach n).parcel k).split = false := ⟨if_pos hsingle, if_pos hsingle, if_pos hsingle⟩
  obtain ⟨hsize, hfull, hsplit⟩ := huncut
  have htail : ((oneByteEach n).parcel k).tail = [7] := by
    rw [Parcel.tail, hsplit, Parcel.rest, hfull, hsize]
    rfl
  have hlast : ((oneByteEach n).parcel k).last = 0 := by
    rw [Parcel.last, hfull, hsplit]
    rfl
  have hfragments : ((oneByteEach n).parcel k).fragments = [((oneByteEach n).parcel k).type2] := by
    simp [Parcel.fragments, hfull, hsplit]
  have hflags : ((oneByteEach n).parcel k).flags = 0 := by
    show (0 : UInt8) &&& 0xf0 = 0
    decide
  have hdiff : ((oneByteEach n).parcel k).hDtsPtsDiff = 0 := by
    show ((1 : UInt64) - 1).toUInt32 = 0
    decide
  rw [packets_eq, oneByteEach_padding, Parcel.packets, hfragments, List.map_singleton, Parcel.type2,
    Parcel.type2Header, htail, hlast, hsize, parcel_number, hflags, hdiff]
  rfl

/-- These calls bring the superframes of such a transmission. -/
theorem oneByteEach_emits (n : UInt16) (k : ℕ) :
    (oneByteEach n).Emits (oneByteArrival k ((oneByteEach n).number k)) := by
  show ((oneByteEach n).packets k)[0]? = _
  rw [oneByteEach_packets]
  rfl

end Transmission

/-! ## §2 Ranks and orders -/

/-- The order of a rank, as a `uint64_t`. -/
def orderOf (rank : ℤ) : UInt64 := ⟨BitVec.ofInt 64 rank⟩

theorem orderOf_inj {r r' : ℤ} (hlt : |r - r'| < 2 ^ 64) (h : orderOf r = orderOf r') : r = r' := by
  have hdvd : (2 ^ 64 : ℤ) ∣ r' - r := Serial.ofInt_eq_iff.mp (UInt64.toBitVec_inj.mpr h)
  have habs := abs_lt.mp hlt
  obtain ⟨q, hq⟩ := hdvd
  omega

/-- A rank that is a `uint64_t` is its own order. -/
theorem orderOf_toNat {r : ℤ} (hlo : 0 ≤ r) (hhi : r < 2 ^ 64) : ((orderOf r).toNat : ℤ) = r := by
  show ((BitVec.ofInt 64 r).toNat : ℤ) = r
  rw [BitVec.toNat_ofInt]
  omega

/-- `UINT64_MAX` is the order of rank `-1`. -/
theorem orderOf_neg_one : orderOf (-1) = UINT64_MAX := rfl

/-- The order of a superframe below the last one is not that of a slot never opened. -/
theorem orderOf_ne_max {k : ℕ} (hlt : k < 2 ^ 64 - 1) : orderOf k ≠ UINT64_MAX := by
  intro hmax
  rw [← orderOf_neg_one] at hmax
  have hrank := orderOf_inj (abs_lt.mpr ⟨by omega, by omega⟩) hmax
  omega

/-- The number of a superframe is its rank, modulo `2 ^ 16`. -/
theorem Transmission.number_toBitVec (T : Transmission) {base : ℤ}
    (hbase : (2 ^ 16 : ℤ) ∣ base - T.lSuperFrameNo.toNat) (k : ℕ) :
    (T.number k).toBitVec = BitVec.ofInt 16 (base + k) := by
  have hstart : T.lSuperFrameNo.toBitVec = BitVec.ofInt 16 base := by
    have hself : BitVec.ofInt 16 (T.lSuperFrameNo.toNat : ℤ) = T.lSuperFrameNo.toBitVec := by
      rw [BitVec.ofInt_natCast]
      exact BitVec.ofNat_toNat _ _ |>.trans (by simp)
    rw [← hself]
    exact Serial.ofInt_eq_iff.mpr hbase
  show T.lSuperFrameNo.toBitVec + (UInt16.ofNat k).toBitVec = _
  rw [hstart, BitVec.ofInt_add]
  congr 1

/-- The least rank that can still be congruent to the first number: the first superframe that
    arrives has its 16-bit number as its rank. -/
def Transmission.base (T : Transmission) (first : Option (Arrival (ℕ × ℕ))) : ℤ :=
  match first with
  | some a => (T.number a.superframe).toNat - a.superframe
  | none => T.lSuperFrameNo.toNat

theorem Transmission.base_dvd (T : Transmission) (first : Option (Arrival (ℕ × ℕ))) :
    (2 ^ 16 : ℤ) ∣ T.base first - T.lSuperFrameNo.toNat := by
  cases first with
  | none => simp [base]
  | some a =>
    have hnumber : (T.number a.superframe).toNat =
        (T.lSuperFrameNo.toNat + a.superframe) % 2 ^ 16 := by
      rw [number, UInt16.toNat_add, UInt16.toNat_ofNat', Nat.add_mod_mod]
    show (2 ^ 16 : ℤ) ∣ (T.number a.superframe).toNat - a.superframe - T.lSuperFrameNo.toNat
    rw [hnumber]
    push_cast
    omega

/-! ## §3 The invariant -/

/-- The renumbering follows the ranks, and every slot has the order of the superframe whose fragment
    last opened it. -/
structure Numbered (T : Transmission) (base : ℤ) (s : Traced (ℕ × ℕ)) : Prop where
  start : s.latest = none → s.receiver.mSuperFrameFirstTime = true
  follows : ∀ c, s.latest = some c →
    s.receiver.mSuperFrameFirstTime = false ∧
    s.receiver.mOldSuperFrameNumber = T.number c.superframe ∧
    s.receiver.mSuperFrameRecalc = orderOf (base + c.superframe)
  unopened : ∀ i, s.owner i = none →
    (s.receiver.mBucketList i).mActive = false ∧
    (s.receiver.mBucketList i).mDeliveryOrder = UINT64_MAX
  opened : ∀ i a, s.owner i = some a →
    slotOf (T.number a.superframe) = i ∧
    (s.receiver.mBucketList i).mDeliveryOrder = orderOf (base + a.superframe) ∧
    (s.receiver.mBucketList i).mSavedSuperFrameNo = T.number a.superframe

/-- A fresh receiver is numbered. -/
theorem numbered_fresh (T : Transmission) (base : ℤ) (B H : UInt32) (mode : EFPReceiverMode) :
    Numbered T base (Traced.fresh (ℕ × ℕ) B H mode) where
  start := fun _ => rfl
  follows := fun c hc => absurd hc (by simp [Traced.fresh])
  unopened := fun _ _ => ⟨rfl, rfl⟩
  opened := fun i a ha => absurd ha (by simp [Traced.fresh])

namespace Numbered

variable {T : Transmission} {base : ℤ} {s : Traced (ℕ × ℕ)}

/-- **The order of a superframe is its rank**, when it is close to the last one renumbered. The
    first superframe has its number as its rank. -/
theorem candidate (h : Numbered T base s)
    (hbase : (2 ^ 16 : ℤ) ∣ base - T.lSuperFrameNo.toNat) {k : ℕ}
    (hfirst : s.latest = none → 0 ≤ base + k ∧ base + k < 2 ^ 16)
    (hnear : ∀ c, s.latest = some c → |(k : ℤ) - c.superframe| < 2 ^ 15) :
    s.receiver.candidate (T.number k) = orderOf (base + k) := by
  apply UInt64.toBitVec_inj.mp
  have hnumber := T.number_toBitVec hbase k
  cases hlatest : s.latest with
  | none =>
    obtain ⟨hlo, hhi⟩ := hfirst hlatest
    exact Receiver.candidate_ofInt_first (h.start hlatest) hnumber hlo (by omega)
  | some c =>
    -- the counters stand at the rank of `c`
    obtain ⟨hnext, hold, hrecalc⟩ := h.follows c hlatest
    have habs := abs_lt.mp (hnear c hlatest)
    have holdRank : s.receiver.mOldSuperFrameNumber.toBitVec =
        BitVec.ofInt 16 (base + c.superframe) := by
      rw [hold, T.number_toBitVec hbase]
    have hrecalcRank : s.receiver.mSuperFrameRecalc.toBitVec =
        BitVec.ofInt 64 (base + c.superframe) := congrArg UInt64.toBitVec hrecalc
    exact Receiver.candidate_ofInt_next hnext holdRank hrecalcRank hnumber (by omega) (by omega)

/-- A bucket with another state, under the same order, for the same superframe. -/
private theorem replaced (h : Numbered T base s) {i : Slot} {b : Bucket} {s' : Traced (ℕ × ℕ)}
    (hlist : s'.receiver.mBucketList = Function.update s.receiver.mBucketList i b)
    (howner : s'.owner = s.owner) (hlatest : s'.latest = s.latest)
    (hfirst : s'.receiver.mSuperFrameFirstTime = s.receiver.mSuperFrameFirstTime)
    (hold : s'.receiver.mOldSuperFrameNumber = s.receiver.mOldSuperFrameNumber)
    (hrecalc : s'.receiver.mSuperFrameRecalc = s.receiver.mSuperFrameRecalc)
    (horder : b.mDeliveryOrder = (s.receiver.mBucketList i).mDeliveryOrder)
    (hsaved : b.mSavedSuperFrameNo = (s.receiver.mBucketList i).mSavedSuperFrameNo)
    (hactive : (s.receiver.mBucketList i).mActive = true) : Numbered T base s' where
  start := by
    rw [hlatest, hfirst]
    exact h.start
  follows := by
    rw [hlatest, hfirst, hold, hrecalc]
    exact h.follows
  unopened := by
    intro j hj
    rw [howner] at hj
    have hbefore := h.unopened j hj
    -- the slot of a bucket in use was opened
    rcases eq_or_ne j i with rfl | hne
    · rw [hactive] at hbefore
      exact absurd hbefore.1 (by simp)
    · rw [hlist, Function.update_of_ne hne]
      exact hbefore
  opened := by
    intro j c hc
    rw [howner] at hc
    have hbefore := h.opened j c hc
    rcases eq_or_ne j i with rfl | hne
    · rw [hlist, Function.update_self, horder, hsaved]
      exact hbefore
    · rw [hlist, Function.update_of_ne hne]
      exact hbefore

/-- A slot that is opened gets the order of the fragment that opens it. -/
private theorem reopened (h : Numbered T base s) {a : Arrival (ℕ × ℕ)} {i : Slot} {b : Bucket}
    {s' : Traced (ℕ × ℕ)}
    (hlist : s'.receiver.mBucketList = Function.update s.receiver.mBucketList i b)
    (howner : s'.owner = Function.update s.owner i (some a)) (hlatest : s'.latest = some a)
    (hfollows : s'.receiver.mSuperFrameFirstTime = false ∧
      s'.receiver.mOldSuperFrameNumber = T.number a.superframe ∧
      s'.receiver.mSuperFrameRecalc = orderOf (base + a.superframe))
    (hslot : slotOf (T.number a.superframe) = i)
    (horder : b.mDeliveryOrder = orderOf (base + a.superframe))
    (hsaved : b.mSavedSuperFrameNo = T.number a.superframe) : Numbered T base s' where
  start := fun hnone => absurd (hlatest.symm.trans hnone) (by simp)
  follows := by
    intro c hc
    obtain rfl := Option.some.inj (hlatest.symm.trans hc)
    exact hfollows
  unopened := by
    intro j hj
    rcases eq_or_ne j i with rfl | hne
    · rw [howner, Function.update_self] at hj
      exact absurd hj (by simp)
    · rw [howner, Function.update_of_ne hne] at hj
      rw [hlist, Function.update_of_ne hne]
      exact h.unopened j hj
  opened := by
    intro j c hc
    rcases eq_or_ne j i with rfl | hne
    · rw [howner, Function.update_self] at hc
      obtain rfl := Option.some.inj hc
      rw [hlist, Function.update_self]
      exact ⟨hslot, horder, hsaved⟩
    · rw [howner, Function.update_of_ne hne] at hc
      rw [hlist, Function.update_of_ne hne]
      exact h.opened j c hc

/-- **Unpacking keeps the numbering**, when a fragment that is renumbered gets its rank. -/
theorem unpacked (h : Numbered T base s) {a : Arrival (ℕ × ℕ)} {f : Fragment}
    (hnumber : f.hSuperFrameNo = T.number a.superframe)
    (hcandidate : (s.receiver.mBucketList f.slot).mActive = false →
      s.receiver.candidate (T.number a.superframe) = orderOf (base + a.superframe)) :
    Numbered T base (s.unpacked a f) := by
  have hslot : slotOf (T.number a.superframe) = f.slot := by rw [← hnumber]; rfl
  have hstep := s.unpacked_outcome a f
  rw [← hnumber] at hcandidate
  generalize s.unpacked a f = s' at hstep ⊢
  generalize (s.receiver.unpackFragment f a.lFromSource a.amb).message = message at hstep
  cases hstep with
  | tooOld hidle hold =>
    -- the number is taken into account before the fragment is refused
    exact
      { start := fun hnone => absurd hnone (by simp)
        follows := fun c hc => by
          obtain rfl := Option.some.inj hc
          exact ⟨rfl, hnumber, hcandidate hidle⟩
        unopened := h.unopened
        opened := h.opened }
  | refused _ hidle hnew hwhy _ =>
    -- given up at once, but the slot keeps the order
    exact h.reopened (a := a) rfl rfl rfl ⟨rfl, hnumber, hcandidate hidle⟩ hslot
      (hcandidate hidle) hnumber
  | opened hidle hnew halloc hplaced =>
    exact h.reopened (a := a) rfl rfl rfl ⟨rfl, hnumber, hcandidate hidle⟩ hslot
      (hcandidate hidle) hnumber
  | outOfResources hactive hother => exact h
  | outOfBounds hactive hsame hbad => exact h.replaced rfl rfl rfl rfl rfl rfl rfl rfl hactive
  | duplicate hactive hsame hdup => exact h
  | added hactive hsame hpos hof hnew =>
    obtain ⟨-, hsaved, -, horder, -⟩ := s.receiver.filledBucket_common f
    exact h.replaced rfl rfl rfl rfl rfl rfl horder hsaved hactive

/-- A delivery pass keeps the numbering. -/
theorem concluded (h : Numbered T base s) (lTimeNow : ℤ) :
    Numbered T base (s.concluded lTimeNow) := by
  have hkept := s.concluded_kept lTimeNow
  exact
    { start := h.start
      follows := h.follows
      unopened := fun i hi => by
        obtain ⟨hidle, horder⟩ := h.unopened i hi
        exact ⟨(hkept i).2.2 hidle, (hkept i).1.trans horder⟩
      opened := fun i a ha => by
        obtain ⟨hslot, horder, hsaved⟩ := h.opened i a ha
        exact ⟨hslot, (hkept i).1.trans horder, (hkept i).2.1.trans hsaved⟩ }

end Numbered

end ElasticFrame
