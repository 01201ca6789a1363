import ElasticFrame.Lib.Registry
import ElasticFrame.Receiver.Run

/-!
# The Bucket Store

The ring of buckets and the sorted map are two views of the buckets in use. `Receiver.Coherent`
says that they agree, and every call and every pass keeps it.

- A bucket is held under its order exactly when it is active (`Receiver.holds`); the map is the
  index of that (`Lib.Registered`).
- The order of an active bucket is congruent to its superframe number. This is what keeps two
  buckets from getting one order: orders of different slots differ modulo 65536.
- A call enters a bucket, gives one up, or leaves the store as it is (`StoreChange`).
-/

namespace ElasticFrame

open ElasticFrame.Lib

/-! ## §1 The invariant -/

/-- The lookup in the map. -/
def Receiver.find (r : Receiver) (k : UInt64) : Option Slot := r.mBucketMap[k]?

/-- The order under which a bucket is held: none when it is not active. -/
def Receiver.holds (r : Receiver) (i : Slot) : Option UInt64 :=
  if (r.mBucketList i).mActive then some (r.mBucketList i).mDeliveryOrder else none

/-- An active bucket at index `i`: it owns a superframe, its number belongs to the index, and its
    order is its number modulo 65536. -/
structure Bucket.Sound (b : Bucket) (i : Slot) : Prop where
  data : b.mBucketData.isSome
  slot : slotOf b.mSavedSuperFrameNo = i
  order : b.mDeliveryOrder.toUInt16 = b.mSavedSuperFrameNo

/-- **The store invariant.** -/
structure Receiver.Coherent (r : Receiver) : Prop where
  index : Registered r.find r.holds
  sound : ∀ i, (r.mBucketList i).mActive = true → (r.mBucketList i).Sound i
  recalc : r.mSuperFrameRecalc.toUInt16 = r.mOldSuperFrameNumber

theorem Receiver.holds_of_active {r : Receiver} {i : Slot}
    (hactive : (r.mBucketList i).mActive = true) :
    r.holds i = some (r.mBucketList i).mDeliveryOrder := if_pos hactive

theorem Receiver.holds_of_idle {r : Receiver} {i : Slot}
    (hidle : (r.mBucketList i).mActive = false) : r.holds i = none := by
  simp [holds, hidle]

theorem Receiver.holds_eq_some {r : Receiver} {i : Slot} {k : UInt64} :
    r.holds i = some k ↔
      (r.mBucketList i).mActive = true ∧ (r.mBucketList i).mDeliveryOrder = k := by
  cases hactive : (r.mBucketList i).mActive with
  | true => simp [holds_of_active hactive]
  | false => simp [holds_of_idle hactive]

/-- The held orders after one bucket was replaced. -/
theorem Receiver.holds_update (r : Receiver) (i : Slot) (b : Bucket) :
    (fun j => if (Function.update r.mBucketList i b j).mActive then
      some (Function.update r.mBucketList i b j).mDeliveryOrder else none) =
      Function.update r.holds i (if b.mActive then some b.mDeliveryOrder else none) := by
  funext j
  by_cases hj : j = i
  · subst hj
    simp
  · simp [hj, holds]

namespace Receiver.Coherent

variable {r : Receiver}

/-- An entry of the map is an active bucket under its order. -/
theorem entry (h : r.Coherent) {k : UInt64} {i : Slot} (hki : r.find k = some i) :
    (r.mBucketList i).mActive = true ∧ (r.mBucketList i).mDeliveryOrder = k :=
  holds_eq_some.mp ((h.index k i).mp hki)

/-- No bucket is in the map under two orders. -/
theorem slotsDistinct (h : r.Coherent) : r.SlotsDistinct := by
  have hkeys := keys_nodup r.mBucketMap
  have hentry : ∀ e ∈ r.mBucketMap.toList, (r.mBucketList e.2).mDeliveryOrder = e.1 :=
    fun e he => (h.entry ((mem_toList_iff _ e).mp he)).2
  unfold SlotsDistinct
  -- the order of its bucket gives an entry's key back
  have hfst : r.mBucketMap.toList.map Prod.fst =
      (r.mBucketMap.toList.map Prod.snd).map fun i => (r.mBucketList i).mDeliveryOrder := by
    rw [List.map_map]
    exact List.map_congr_left fun e he => (hentry e he).symm
  rw [hfst] at hkeys
  exact hkeys.of_map _

/-- The renumbering keeps the congruence to the 16-bit number. -/
theorem candidate_toUInt16 (h : r.Coherent) (n : UInt16) : (r.candidate n).toUInt16 = n :=
  candidate_congruent h.recalc n

/-- **No insertion overwrites an entry**: the order of a free slot is not in the map. -/
theorem candidate_free (h : r.Coherent) {n : UInt16}
    (hidle : (r.mBucketList (slotOf n)).mActive = false) : r.find (r.candidate n) = none := by
  apply h.index.find_eq_none
  intro j hj
  obtain ⟨hactive, horder⟩ := holds_eq_some.mp hj
  have hsound := h.sound j hactive
  -- the bucket under this order has this number, so it is the bucket of the slot
  have hnumber : (r.mBucketList j).mSavedSuperFrameNo = n := by
    rw [← hsound.order, horder, h.candidate_toUInt16]
  have hslot : slotOf n = j := by rw [← hnumber, hsound.slot]
  rw [hslot, hactive] at hidle
  exact absurd hidle (by simp)

end Receiver.Coherent

/-- A new receiver holds nothing. -/
theorem Receiver.coherent_new (B H : UInt32) (mode : EFPReceiverMode) :
    (Receiver.new B H mode).Coherent where
  index := fun k i => by simp [Receiver.new, Receiver.holds, Receiver.find]
  sound := fun i h => by simp [Receiver.new] at h
  recalc := rfl

/-! ## §2 What a call does to the store -/

theorem find_insert (m : BucketMap) (k : UInt64) (i : Slot) :
    (fun k' => (m.insert k i)[k']?) = Function.update (fun k' => m[k']?) k (some i) := by
  funext k'
  rw [Std.ExtTreeMap.getElem?_insert]
  by_cases hk : k' = k
  · simp [hk]
  · simp [hk, Ne.symm hk]

theorem find_erase (m : BucketMap) (k : UInt64) :
    (fun k' => (m.erase k)[k']?) = Function.update (fun k' => m[k']?) k none := by
  funext k'
  rw [Std.ExtTreeMap.getElem?_erase]
  by_cases hk : k' = k
  · simp [hk]
  · simp [hk, Ne.symm hk]

/-- The change of the store in one call, with the numbers of buckets it opened and gave up. -/
inductive Receiver.StoreChange (r r' : Receiver) : ℕ → ℕ → Prop where
  | same (n : ℕ) (hfind : r'.find = r.find) (hholds : r'.holds = r.holds) : StoreChange r r' n n
  | entered (k : UInt64) (i : Slot) (hfree : r.find k = none) (hidle : r.holds i = none)
      (hfind : r'.find = Function.update r.find k (some i))
      (hholds : r'.holds = Function.update r.holds i (some k)) : StoreChange r r' 1 0
  | left (k : UInt64) (i : Slot) (hentry : r.find k = some i)
      (hfind : r'.find = Function.update r.find k none)
      (hholds : r'.holds = Function.update r.holds i none) : StoreChange r r' 0 1

namespace Receiver.StoreChange

variable {r r' : Receiver} {opened dropped : ℕ}

theorem registered (h : r.StoreChange r' opened dropped) (hindex : Registered r.find r.holds) :
    Registered r'.find r'.holds := by
  cases h with
  | same n hfind hholds =>
    rw [hfind, hholds]
    exact hindex
  | entered k i hfree hidle hfind hholds =>
    rw [hfind, hholds]
    exact hindex.enter hfree hidle
  | left k i hentry hfind hholds =>
    rw [hfind, hholds]
    exact hindex.leave hentry

/-- Held before and opened is held after or given up. -/
theorem count (h : r.StoreChange r' opened dropped)
    (hindex : Registered r.find r.holds) :
    named r'.holds + dropped = named r.holds + opened := by
  cases h with
  | same n hfind hholds => rw [hholds]
  | entered k i hfree hidle hfind hholds =>
    rw [hholds, named_enter hidle]
  | left k i hentry hfind hholds =>
    have hname : r.holds i = some k := (hindex k i).mp hentry
    rw [hholds]
    exact (named_leave hname).trans (Nat.add_zero (named r.holds)).symm

end Receiver.StoreChange

/-- A call with this message gave up a bucket. -/
def ElasticFrameMessages.drops (message : ElasticFrameMessages) : Bool :=
  message == .bufferOutOfBounds || message == .memoryAllocationError

/-- The bucket that the fragment belongs to is opened by a call with this message. -/
def Receiver.opens (r : Receiver) (f : Fragment) (message : ElasticFrameMessages) : Bool :=
  !(r.mBucketList f.slot).mActive && message != .tooOldFragment

/-- **What unpacking does to the store.** -/
theorem Receiver.Coherent.unpack_change {r : Receiver} (h : r.Coherent) (f : Fragment)
    (lFromSource : UInt8) (amb : Ambient) :
    let u := r.unpackFragment f lFromSource amb
    r.StoreChange u.receiver (r.opens f u.message).toNat u.message.drops.toNat := by
  have hstep := r.unpackFragment_step f lFromSource amb
  generalize r.unpackFragment f lFromSource amb = u at hstep ⊢
  show r.StoreChange u.receiver (r.opens f u.message).toNat u.message.drops.toNat
  cases hstep with
  | tooOld hidle hold =>
    rw [opens, hidle]
    exact .same 0 rfl rfl
  | refused hidle hnew hwhy =>
    -- the entry is inserted and erased; the slot stays idle
    have hfree := h.candidate_free hidle
    have hboth : (r.opens f (if amb.allocates = false then
        ElasticFrameMessages.memoryAllocationError else .bufferOutOfBounds)).toNat = 1 ∧
        ((if amb.allocates = false then ElasticFrameMessages.memoryAllocationError
          else .bufferOutOfBounds).drops).toNat = 1 := by
      rw [opens, hidle]
      split <;> exact ⟨rfl, rfl⟩
    rw [hboth.1, hboth.2]
    apply StoreChange.same 1
    · show (fun k => ((r.mBucketMap.insert (r.candidate f.hSuperFrameNo) f.slot).erase
        (r.candidate f.hSuperFrameNo))[k]?) = r.find
      rw [find_erase, find_insert, Function.update_idem]
      exact Function.update_eq_self_iff.mpr hfree.symm
    · refine (r.holds_update f.slot _).trans ?_
      exact Function.update_eq_self_iff.mpr (holds_of_idle hidle).symm
  | opened hidle hnew halloc hplaced =>
    rw [opens, hidle]
    refine .entered (r.candidate f.hSuperFrameNo) f.slot (h.candidate_free hidle)
      (holds_of_idle hidle) (find_insert _ _ _) ?_
    exact r.holds_update f.slot _
  | outOfResources hactive hother =>
    rw [opens, hactive]
    exact .same 0 rfl rfl
  | outOfBounds hactive hsame hbad =>
    -- the entry that is erased is the one of this bucket: the map is the index
    rw [opens, hactive]
    refine .left (r.mBucketList f.slot).mDeliveryOrder f.slot
      ((h.index _ _).mpr (holds_of_active hactive)) (find_erase _ _) ?_
    exact r.holds_update f.slot _
  | duplicate hactive hsame hpos hof hdup =>
    rw [opens, hactive]
    exact .same 0 rfl rfl
  | added hactive hsame hpos hof hnew =>
    -- a fragment changes neither the use nor the order of its bucket
    rw [opens, hactive]
    obtain ⟨hactive', -, -, horder, -⟩ := r.filledBucket_common f
    refine .same 0 rfl ((r.holds_update f.slot _).trans ?_)
    rw [hactive', horder, hactive]
    exact Function.update_eq_self_iff.mpr (holds_of_active hactive).symm

/-! ## §3 The invariant is kept -/

/-- Unpacking leaves every active bucket sound. -/
private theorem unpack_sound {r : Receiver} (h : r.Coherent) (f : Fragment) (lFromSource : UInt8)
    (amb : Ambient) {b : Bucket}
    (hb : b = (r.unpackFragment f lFromSource amb).receiver.mBucketList f.slot)
    (hactive : b.mActive = true) : b.Sound f.slot := by
  have hstep := r.unpackFragment_step f lFromSource amb
  generalize r.unpackFragment f lFromSource amb = u at hstep hb
  cases hstep with
  | tooOld hidle hold =>
    subst hb
    exact h.sound f.slot hactive
  | refused hidle hnew hwhy =>
    rw [hb] at hactive
    simp at hactive
  | opened hidle hnew halloc hplaced =>
    have hb : b = r.openedWith f lFromSource amb := by simpa using hb
    subst hb
    -- the order of a new bucket is the renumbered number
    refine ⟨?_, rfl, h.candidate_toUInt16 _⟩
    simp [Receiver.openedWith, Receiver.openedBucket]
  | outOfResources hactive' hother =>
    subst hb
    exact h.sound f.slot hactive
  | outOfBounds hactive' hsame hbad =>
    rw [hb] at hactive
    simp at hactive
  | duplicate hactive' hsame hpos hof hdup =>
    subst hb
    exact h.sound f.slot hactive
  | added hactive' hsame hpos hof hnew =>
    have hb : b = r.filledBucket f := by simpa using hb
    have hsound := h.sound f.slot hactive'
    obtain ⟨-, hsaved, -, horder, -⟩ := r.filledBucket_common f
    subst hb
    refine ⟨?_, ?_, ?_⟩
    · rw [r.filledBucket_data f, Option.isSome_map]
      exact hsound.data
    · rw [hsaved]
      exact hsound.slot
    · rw [hsaved, horder]
      exact hsound.order

/-- Unpacking keeps the counters of the renumbering congruent. -/
private theorem unpack_recalc {r : Receiver} (h : r.Coherent) (f : Fragment) (lFromSource : UInt8)
    (amb : Ambient) :
    let r' := (r.unpackFragment f lFromSource amb).receiver
    r'.mSuperFrameRecalc.toUInt16 = r'.mOldSuperFrameNumber := by
  have hstep := r.unpackFragment_step f lFromSource amb
  generalize r.unpackFragment f lFromSource amb = u at hstep ⊢
  cases hstep with
  | tooOld => exact h.candidate_toUInt16 _
  | refused => exact h.candidate_toUInt16 _
  | opened => exact h.candidate_toUInt16 _
  | outOfResources => exact h.recalc
  | outOfBounds => exact h.recalc
  | duplicate => exact h.recalc
  | added => exact h.recalc

/-- **A call keeps the store invariant.** -/
theorem Receiver.Coherent.unpack {r : Receiver} (h : r.Coherent) (f : Fragment)
    (lFromSource : UInt8) (amb : Ambient) :
    (r.unpackFragment f lFromSource amb).receiver.Coherent where
  index := (h.unpack_change f lFromSource amb).registered h.index
  sound := by
    intro i hactive
    by_cases hi : i = f.slot
    · subst hi
      exact unpack_sound h f lFromSource amb rfl hactive
    · rw [r.unpackFragment_other f lFromSource amb hi] at hactive ⊢
      exact h.sound i hactive
  recalc := unpack_recalc h f lFromSource amb

/-- The lookups after entries were released. -/
theorem Receiver.release_find (r : Receiver) (es : List (UInt64 × Slot)) :
    (r.release es).find = fun k => if k ∈ es.map Prod.fst then none else r.find k := by
  funext k
  show (es.foldl (fun m e => m.erase e.1) r.mBucketMap)[k]? = _
  unfold Receiver.find
  generalize r.mBucketMap = m
  -- one erasure after the other, so the map changes along the induction
  induction es generalizing m with
  | nil => simp
  | cons e rest ih =>
    have herase := congrFun (find_erase m e.1) k
    rw [List.foldl_cons, ih (m.erase e.1), herase]
    by_cases hk : k = e.1
    · simp [hk]
    · simp [hk, -List.mem_map]

/-- The held orders after buckets were released. -/
theorem Receiver.release_holds (r : Receiver) (es : List (UInt64 × Slot)) :
    (r.release es).holds = fun i => if i ∈ es.map Prod.snd then none else r.holds i := by
  funext i
  by_cases hi : i ∈ es.map Prod.snd
  · rw [if_pos hi]
    apply holds_of_idle
    show (if i ∈ es.map Prod.snd then _ else r.mBucketList i : Bucket).mActive = false
    rw [if_pos hi]
  · rw [if_neg hi]
    have hsame : (r.release es).mBucketList i = r.mBucketList i := if_neg hi
    rw [holds, hsame]
    rfl

/-- The selected entries are entries of the store. -/
theorem Receiver.scan_entries (r : Receiver) (lTimeNow : ℤ) {e : UInt64 × Slot}
    (he : e ∈ (r.scan lTimeNow).selected) : r.find e.1 = some e.2 :=
  (mem_toList_iff _ e).mp ((r.scan_sublist lTimeNow).subset he)

/-- **A pass keeps the store invariant.** -/
theorem Receiver.Coherent.conclude {r : Receiver} (h : r.Coherent) (lTimeNow : ℤ) :
    (r.conclude (r.scan lTimeNow)).receiver.Coherent where
  index := by
    have hgone := h.index.leaveAll (r.scan lTimeNow).selected fun e he =>
      r.scan_entries lTimeNow he
    rw [← r.release_find, ← r.release_holds] at hgone
    exact hgone
  sound := by
    intro i hactive
    by_cases hi : i ∈ (r.scan lTimeNow).selected.map Prod.snd
    · simp [Receiver.conclude, Receiver.release, hi, -List.mem_map] at hactive
    · simp only [Receiver.conclude, Receiver.release, if_neg hi] at hactive ⊢
      exact h.sound i hactive
  recalc := h.recalc

/-! ## §4 Every reachable state -/

section Reachable

variable {τ : Type} (B H : UInt32) (mode : EFPReceiverMode)

theorem Traced.coherent_step {s : Traced τ} (h : s.receiver.Coherent) (e : Event τ) :
    (s.step e).1.receiver.Coherent :=
  Traced.step_rule (I := fun s => s.receiver.Coherent) (fun _ h => h.slotsDistinct)
    (fun _ lTimeNow h => h.conclude lTimeNow) h (fun a f _ _ => h.unpack f a.lFromSource a.amb)

/-- The store invariant holds in every reachable state. -/
theorem coherent_run (es : List (Event τ)) :
    ((receiverMachine τ).run (Traced.fresh τ B H mode) es).receiver.Coherent :=
  (receiverMachine τ).run_invariant (I := fun s => s.receiver.Coherent) (C := fun _ _ => True)
    (Receiver.coherent_new B H mode) (fun _ e _ h => Traced.coherent_step h e)
    (fun _ _ _ => trivial)

/-- The store invariant holds wherever a run takes a step. -/
theorem coherent_takes {es : List (Event τ)} {s : Traced τ} {e : Event τ}
    (ht : (receiverMachine τ).Takes (Traced.fresh τ B H mode) es s e) : s.receiver.Coherent := by
  obtain ⟨pre, post, -, rfl⟩ := ht
  exact coherent_run B H mode pre

/-- The settings of the receiver are those of its constructor. -/
structure Receiver.Configured (r : Receiver) (B H : UInt32) (mode : EFPReceiverMode) : Prop where
  bucketTimeoutms : r.mBucketTimeoutms = B
  holTimeoutms : r.mHeadOfLineBlockingTimeoutms = H
  currentMode : r.mCurrentMode = mode
  running : r.Running

theorem Receiver.Configured.unpack {r : Receiver} {B H : UInt32} {mode : EFPReceiverMode}
    (h : r.Configured B H mode) (f : Fragment) (lFromSource : UInt8) (amb : Ambient) :
    (r.unpackFragment f lFromSource amb).receiver.Configured B H mode := by
  have hsame := r.unpackFragment_sameDelivery f lFromSource amb
  refine ⟨hsame.bucketTimeoutms.trans h.bucketTimeoutms, hsame.holTimeoutms.trans h.holTimeoutms,
    hsame.currentMode.trans h.currentMode, ?_⟩
  unfold Receiver.Running
  rw [hsame.workerActive, hsame.deliveryActive, hsame.currentMode]
  exact h.running

theorem Receiver.Configured.conclude {r : Receiver} {B H : UInt32} {mode : EFPReceiverMode}
    (h : r.Configured B H mode) (scan : Scan) : (r.conclude scan).receiver.Configured B H mode :=
  ⟨h.bucketTimeoutms, h.holTimeoutms, h.currentMode, h.running⟩

theorem Receiver.configured_new (B H : UInt32) (mode : EFPReceiverMode) :
    (Receiver.new B H mode).Configured B H mode where
  bucketTimeoutms := rfl
  holTimeoutms := rfl
  currentMode := rfl
  running := by cases mode <;> simp [Receiver.Running, Receiver.new]

/-- Nothing in a run changes the settings. -/
theorem configured_run (es : List (Event τ)) :
    ((receiverMachine τ).run (Traced.fresh τ B H mode) es).receiver.Configured B H mode := by
  have hrun := (receiverMachine τ).run_invariant
    (I := fun s => s.receiver.Coherent ∧ s.receiver.Configured B H mode) (C := fun _ _ => True)
    (s := Traced.fresh τ B H mode) (w := es)
    ⟨Receiver.coherent_new B H mode, Receiver.configured_new B H mode⟩
    (fun s e _ hI => Traced.step_rule
      (I := fun s => s.receiver.Coherent ∧ s.receiver.Configured B H mode)
      (fun _ hI => hI.1.slotsDistinct)
      (fun _ lTimeNow hI => ⟨hI.1.conclude lTimeNow, hI.2.conclude _⟩) hI
      (fun a f _ _ => ⟨hI.1.unpack f a.lFromSource a.amb, hI.2.unpack f a.lFromSource a.amb⟩))
    (fun _ _ _ => trivial)
  exact hrun.2

/-! A step from a coherent state, for a statement about the buckets in use that its unpacking
keeps. -/

section InUse

variable {s : Traced τ} (hs : s.receiver.Coherent) {P : Slot → Bucket → List (Arrival τ) → Prop}
  (h : s.InUse P) {e : Event τ}
  (hkeep : ∀ a f, e = .receiveFragment a → Fragment.ofPacket a.pSubPacket = some f →
    (s.unpacked a f).InUse P)

include hs h hkeep

theorem Traced.step_inUse : (s.step e).1.InUse P := by
  have hstep := Traced.step_rule (I := fun s => s.receiver.Coherent ∧ s.InUse P)
    (fun _ hI => hI.1.slotsDistinct)
    (fun _ lTimeNow hI => ⟨hI.1.conclude lTimeNow, hI.2.concluded lTimeNow⟩) ⟨hs, h⟩
    (fun a f he hpacket => ⟨hs.unpack f a.lFromSource a.amb, hkeep a f he hpacket⟩)
  exact hstep.2

/-- A superframe that is handed out comes from a bucket in use that is complete or whose deadline
    has passed. -/
theorem Traced.step_handed_inUse {x : HandOver τ} (hx : x ∈ (s.step e).2.handed) :
    ∃ b d, P x.slot b x.accepted ∧ b.mBucketData = some d ∧ x.frame = b.assemble d ∧
      (b.complete = true ∨ b.mTimeout + s.receiver.holTimeout ≤ x.lTimeNow) := by
  obtain ⟨s', ⟨hs', h', hhol⟩, order, d, hselected, hdata, hframe, haccepted⟩ :=
    Traced.step_handed
      (I := fun s' => s'.receiver.Coherent ∧ s'.InUse P ∧
        s'.receiver.holTimeout = s.receiver.holTimeout)
      (fun _ hI => hI.1.slotsDistinct) ⟨hs, h, rfl⟩
      (fun a f he hpacket => by
        refine ⟨hs.unpack f a.lFromSource a.amb, hkeep a f he hpacket, ?_⟩
        have hsame := s.receiver.unpackFragment_sameDelivery f a.lFromSource a.amb
        show Receiver.holTimeout _ = _
        unfold Receiver.holTimeout
        rw [← hsame.holTimeoutms]
        rfl)
      hx
  have hentry := hs'.entry (s'.receiver.scan_entries x.lTimeNow hselected)
  refine ⟨s'.receiver.mBucketList x.slot, d, ?_, hdata, hframe, ?_⟩
  · rw [haccepted]
    exact h' x.slot hentry.1
  · rw [← hhol]
    exact Receiver.scan_due hselected

end InUse

/-- **Run rule for buckets**: what unpacking keeps of the buckets in use is true of them in every
    reachable state. -/
theorem Traced.inUse_run {P : Slot → Bucket → List (Arrival τ) → Prop} {es : List (Event τ)}
    (hkeep : ∀ (s : Traced τ) (a : Arrival τ) (f : Fragment), .receiveFragment a ∈ es →
      s.receiver.Configured B H mode → Fragment.ofPacket a.pSubPacket = some f → s.InUse P →
      (s.unpacked a f).InUse P) :
    ((receiverMachine τ).run (Traced.fresh τ B H mode) es).InUse P := by
  induction es using List.reverseRecOn with
  | nil =>
    -- no bucket is in use yet
    intro i hactive
    simp [Traced.fresh, Receiver.new] at hactive
  | append_singleton es e ih =>
    have hbefore := ih fun s a f ha => hkeep s a f (List.mem_append_left _ ha)
    rw [Machine.run_concat]
    apply Traced.step_inUse (coherent_run B H mode es) hbefore
    rintro a f rfl hpacket
    exact hkeep _ a f (List.mem_append_right _ List.mem_cons_self) (configured_run B H mode es)
      hpacket hbefore

/-- In a pass a bucket in use is handed out, or it stays as it is. -/
theorem Traced.pass_fate {s : Traced τ} {lTimeNow : ℤ} {d : Delivered}
    (hpass : s.receiver.Passes lTimeNow d) {i : Slot}
    (hactive : (s.receiver.mBucketList i).mActive = true) {sf : SuperFrame}
    (hdata : (s.receiver.mBucketList i).mBucketData = some sf) :
    (∃ x ∈ s.handOvers lTimeNow d.handed, x.slot = i ∧
      x.frame = (s.receiver.mBucketList i).assemble sf ∧ x.accepted = s.accepted i) ∨
    (s.delivered d).receiver.mBucketList i = s.receiver.mBucketList i := by
  cases hpass with
  | idle => exact Or.inr rfl
  | scan =>
    by_cases hi : i ∈ (s.receiver.scan lTimeNow).selected.map Prod.snd
    · obtain ⟨e, he, rfl⟩ := List.mem_map.mp hi
      left
      simp only [Traced.handOvers, Receiver.conclude, Receiver.collect, List.mem_map,
        List.mem_filterMap, Option.map_eq_some_iff]
      exact ⟨_, ⟨_, ⟨e, he, sf, hdata, rfl⟩, rfl⟩, rfl, rfl, rfl⟩
    · right
      simp only [Traced.delivered, Receiver.conclude, Receiver.release, if_neg hi]

end Reachable

/-! ## §5 Conservation -/

/-- The number of active buckets. -/
@[irreducible] def Receiver.activeCount (r : Receiver) : ℕ :=
  (Finset.univ.filter fun i => (r.mBucketList i).mActive).card

theorem Receiver.named_holds (r : Receiver) : named r.holds = r.activeCount := by
  unfold activeCount
  apply congrArg Finset.card
  apply Finset.filter_congr
  intro i _
  cases hactive : (r.mBucketList i).mActive with
  | true => simp [holds_of_active hactive]
  | false => simp [holds_of_idle hactive]

/-- A pass hands out one superframe for every selected entry. -/
theorem Receiver.Coherent.collect_length {r : Receiver} (h : r.Coherent) (lTimeNow : ℤ) :
    (r.collect (r.scan lTimeNow).selected).length = (r.scan lTimeNow).selected.length := by
  have hentries : ∀ e ∈ (r.scan lTimeNow).selected, r.find e.1 = some e.2 := fun e he =>
    r.scan_entries lTimeNow he
  generalize (r.scan lTimeNow).selected = es at hentries ⊢
  induction es with
  | nil => rfl
  | cons e rest ih =>
    have hactive := (h.entry (hentries e List.mem_cons_self)).1
    obtain ⟨d, hd⟩ := Option.isSome_iff_exists.mp (h.sound e.2 hactive).data
    have hrest := ih fun e' he' => hentries e' (List.mem_cons_of_mem _ he')
    simpa [collect, hd] using hrest

/-- What a pass hands out is no longer held. -/
theorem Receiver.Passes.count {r : Receiver} (h : r.Coherent) {lTimeNow : ℤ} {d : Delivered}
    (hpass : r.Passes lTimeNow d) : d.receiver.activeCount + d.handed.length = r.activeCount := by
  cases hpass with
  | idle => exact Nat.add_zero r.activeCount
  | scan =>
    -- the selected buckets are all different and all held, so each one counts once
    have hslots : ((r.scan lTimeNow).selected.map Prod.snd).Nodup :=
      h.slotsDistinct.sublist ((r.scan_sublist lTimeNow).map _)
    have hheld : ∀ i ∈ (r.scan lTimeNow).selected.map Prod.snd, (r.holds i).isSome := by
      intro i hi
      obtain ⟨e, he, rfl⟩ := List.mem_map.mp hi
      rw [(h.index _ _).mp (r.scan_entries lTimeNow he)]
      rfl
    have hcount := named_leaveAll hslots hheld
    rw [← r.release_holds, List.length_map, named_holds, named_holds] at hcount
    have hlist : (r.conclude (r.scan lTimeNow)).receiver.activeCount =
        (r.release (r.scan lTimeNow).selected).activeCount := by
      unfold activeCount
      rfl
    rw [hlist, ← hcount, ← h.collect_length lTimeNow]
    rfl

section Ledger

variable {τ : Type}

/-- The buckets opened, as the reports of a run tell. -/
def openedCount (os : List (Report τ)) : ℕ := os.countP fun o => o.opened

/-- The buckets given up by a call that returned an error. -/
def droppedCount (os : List (Report τ)) : ℕ :=
  os.countP fun o => o.message.any ElasticFrameMessages.drops

/-- The superframes handed out. -/
def handedCount (os : List (Report τ)) : ℕ := (os.map fun o => o.handed.length).sum

/-- An unpack function never says that the receiver is not running. -/
private theorem opens_unpacked (s : Traced τ) (f : Fragment) (lFromSource : UInt8)
    (amb : Ambient) :
    s.opens f (s.receiver.unpackFragment f lFromSource amb).message =
      s.receiver.opens f (s.receiver.unpackFragment f lFromSource amb).message := by
  have hrunning : (s.receiver.unpackFragment f lFromSource amb).message ≠ .receiverNotRunning := by
    have hstep := s.receiver.unpackFragment_step f lFromSource amb
    generalize s.receiver.unpackFragment f lFromSource amb = u at hstep ⊢
    cases hstep with
    | refused => split <;> simp
    | _ => simp
  rw [Traced.opens, Receiver.opens, bne_iff_ne.mpr hrunning, Bool.and_true]

/-- **One step keeps the books**: held before and opened is held after, handed out or given up. -/
theorem Traced.step_ledger {s : Traced τ} (h : s.receiver.Coherent) (e : Event τ) :
    (s.step e).1.receiver.activeCount + (s.step e).2.handed.length +
        ((s.step e).2.message.any ElasticFrameMessages.drops).toNat =
      s.receiver.activeCount + (s.step e).2.opened.toNat := by
  have hparts := s.step_parts e
  generalize s.step e = out at hparts ⊢
  cases hparts with
  | refused a message accesses hmessage hwhy haccesses =>
    have hdrops : message.drops = false := by
      simp only [List.mem_cons, List.not_mem_nil, or_false] at hmessage
      rcases hmessage with rfl | rfl | rfl | rfl <;> rfl
    simp [hdrops]
  | cut a hpacket hsize d hd =>
    subst hd
    have hpass := (Receiver.runIfToCompletion_passes h.slotsDistinct a.amb.clockPass).count h
    have hkept : ElasticFrameMessages.type2FrameOutOfBounds.drops = false := rfl
    simpa [Traced.delivered, Traced.handOvers, hkept] using hpass
  | fragment a f header hpacket d hd =>
    subst hd
    -- the unpacking opens or gives up a bucket, then the pass hands out
    have h' := h.unpack f a.lFromSource a.amb
    have hpass := (Receiver.runIfToCompletion_passes h'.slotsDistinct a.amb.clockPass).count h'
    have hunpack := (h.unpack_change f a.lFromSource a.amb).count h.index
    rw [Receiver.named_holds, Receiver.named_holds] at hunpack
    simp only [Traced.delivered, Traced.handOvers, List.length_map, opens_unpacked,
      Option.any_some]
    have hmoved : (s.unpacked a f).receiver =
        (s.receiver.unpackFragment f a.lFromSource a.amb).receiver := rfl
    rw [hmoved]
    omega
  | runToCompletion lTimeNow d hd =>
    subst hd
    have hpass := (Receiver.runToCompletionMethod_passes h.slotsDistinct lTimeNow).count h
    simpa [Traced.delivered, Traced.handOvers] using hpass
  | worker lTimeNow d hd =>
    subst hd
    have hpass := (Receiver.receiverWorkerPass_passes h.slotsDistinct lTimeNow).count h
    simpa [Traced.delivered, Traced.handOvers] using hpass

/-- A new receiver has no active bucket. -/
theorem activeCount_new (B H : UInt32) (mode : EFPReceiverMode) :
    (Receiver.new B H mode).activeCount = 0 := by
  unfold Receiver.activeCount
  rw [Finset.card_eq_zero, Finset.filter_eq_empty_iff]
  intro i _
  simp [Receiver.new]

/-- **A run keeps the books.** -/
theorem run_ledger (B H : UInt32) (mode : EFPReceiverMode) (es : List (Event τ)) :
    openedCount ((receiverMachine τ).outputs (Traced.fresh τ B H mode) es) =
      handedCount ((receiverMachine τ).outputs (Traced.fresh τ B H mode) es) +
        droppedCount ((receiverMachine τ).outputs (Traced.fresh τ B H mode) es) +
        ((receiverMachine τ).run (Traced.fresh τ B H mode) es).receiver.activeCount := by
  induction es using List.reverseRecOn with
  | nil =>
    simp [openedCount, handedCount, droppedCount, Machine.outputs, Traced.fresh, activeCount_new]
  | append_singleton es e ih =>
    have hstep := Traced.step_ledger (coherent_run B H mode es) e
    have htoNat : ∀ b : Bool, (if b = true then 1 else 0) = b.toNat := by decide
    rw [Machine.outputs_concat, Machine.run_concat]
    simp only [openedCount, droppedCount, handedCount, List.countP_append, List.map_append,
      List.sum_append, List.countP_singleton, List.map_singleton, List.sum_singleton,
      htoNat] at ih ⊢
    simp only [receiverMachine] at ih hstep ⊢
    omega

/-- The order that this event enters into the map: the opening branch of the unpack functions is
    the only place that inserts. -/
def Traced.inserts (s : Traced τ) : Event τ → Option UInt64
  | .receiveFragment a =>
      (Fragment.ofPacket a.pSubPacket).bind fun f =>
        if (s.receiver.mBucketList f.slot).mActive = false ∧
            s.receiver.candidate f.hSuperFrameNo ≠
              (s.receiver.mBucketList f.slot).mDeliveryOrder then
          some (s.receiver.candidate f.hSuperFrameNo)
        else none
  | _ => none

/-- **The bucket store.** After any sequence of packets and passes, in either mode, with any
    timeouts and any failing allocations: the map is the index of the active buckets, every active
    bucket is sound, no insertion ever overwrote an entry, and every bucket opened was handed out,
    given up, or is still active. -/
theorem bucketStore_coherent_and_conserved (B H : UInt32) (mode : EFPReceiverMode)
    (es : List (Event τ)) :
    let r := ((receiverMachine τ).run (Traced.fresh τ B H mode) es).receiver
    let os := (receiverMachine τ).outputs (Traced.fresh τ B H mode) es
    (∀ i, (r.mBucketList i).mActive = true ↔
      r.mBucketMap[(r.mBucketList i).mDeliveryOrder]? = some i) ∧
    (∀ k i, r.mBucketMap[k]? = some i →
      (r.mBucketList i).mActive = true ∧ (r.mBucketList i).mDeliveryOrder = k) ∧
    (∀ i, (r.mBucketList i).mActive = true →
      (r.mBucketList i).mBucketData.isSome ∧
      (r.mBucketList i).mSavedSuperFrameNo.toNat &&& CIRCULAR_BUFFER_SIZE = i.val ∧
      (r.mBucketList i).mDeliveryOrder.toNat % 65536 =
        (r.mBucketList i).mSavedSuperFrameNo.toNat) ∧
    (∀ i j, (r.mBucketList i).mActive = true → (r.mBucketList j).mActive = true →
      (r.mBucketList i).mDeliveryOrder = (r.mBucketList j).mDeliveryOrder → i = j) ∧
    (∀ s e k, (receiverMachine τ).Takes (Traced.fresh τ B H mode) es s e →
      s.inserts e = some k → s.receiver.mBucketMap[k]? = none) ∧
    openedCount os = handedCount os + droppedCount os + r.activeCount := by
  intro r os
  have hcoherent : r.Coherent := coherent_run B H mode es
  refine ⟨?_, ?_, ?_, ?_, ?_, ?_⟩
  · intro i
    constructor
    · intro hactive
      exact (hcoherent.index _ i).mpr (Receiver.holds_of_active hactive)
    · intro hfind
      exact (hcoherent.entry hfind).1
  · intro k i hfind
    exact hcoherent.entry hfind
  · intro i hactive
    have hsound := hcoherent.sound i hactive
    refine ⟨hsound.data, ?_, ?_⟩
    · exact congrArg Fin.val hsound.slot
    · rw [← hsound.order]
      rfl
  · intro i j hi hj horder
    apply hcoherent.index.name_injective (Receiver.holds_of_active hi)
    rw [Receiver.holds_of_active hj, horder]
  · intro s e k htakes hinserts
    have hs : s.receiver.Coherent := coherent_takes B H mode htakes
    cases e with
    | receiveFragment a =>
      obtain ⟨f, -, hf⟩ := Option.bind_eq_some_iff.mp hinserts
      split at hf
      case isTrue hopens =>
        rw [← Option.some.inj hf]
        exact hs.candidate_free hopens.1
      case isFalse => exact absurd hf (by simp)
    | runToCompletionMethod lTimeNow => exact absurd hinserts (by simp [Traced.inserts])
    | receiverWorkerPass lTimeNow => exact absurd hinserts (by simp [Traced.inserts])
  · exact run_ledger B H mode es

end Ledger

/-! ## §6 The two engines -/

/-- **The two delivery engines agree.** In every state in which no bucket is in the map under two
    orders, which every reachable state is: with the same time, a worker pass hands out the same
    superframes in the same order as `runToCompletionMethod` and leaves the same receiver, except
    that in head-of-line mode, before the head is set, it may wait and do nothing. -/
theorem engines_agree :
    (∀ (r : Receiver) (lTimeNow : ℤ), r.SlotsDistinct →
      (r.mHeadOfLineBlockingTimeoutms = 0 ∨ r.mDeliveryHOLFirstRun = false →
        r.receiverWorkerPass lTimeNow = r.runToCompletionMethod lTimeNow) ∧
      (r.mHeadOfLineBlockingTimeoutms ≠ 0 ∧ r.mDeliveryHOLFirstRun = true →
        r.receiverWorkerPass lTimeNow = r.runToCompletionMethod lTimeNow ∨
          r.receiverWorkerPass lTimeNow = { receiver := r, handed := [] })) ∧
    (∀ (B H : UInt32) (mode : EFPReceiverMode) (es : List (Event Unit)),
      ((receiverMachine Unit).run (Traced.fresh Unit B H mode) es).receiver.SlotsDistinct) := by
  constructor
  · intro r lTimeNow hdistinct
    rw [r.receiverWorkerPass_eq hdistinct, r.runToCompletionMethod_eq hdistinct]
    constructor
    · intro hset
      apply if_neg
      rintro ⟨hhol, hfirst, -⟩
      rcases hset with hoff | hset
      · exact hhol hoff
      · rw [hfirst] at hset
        exact absurd hset (by simp)
    · intro _
      split
      · exact Or.inr rfl
      · exact Or.inl rfl
  · intro B H mode es
    exact (coherent_run B H mode es).slotsDistinct

end ElasticFrame
