import ElasticFrame.EndToEnd.Retention
import ElasticFrame.Receiver.Deadline
import Mathlib.Data.Fintype.EquivFin

/-!
# In-Order Delivery

In head-of-line mode, when nothing is lost and no deadline passes, superframes are handed over in
their order, each one unbroken and as soon as it and all before it are complete: after every call
exactly the superframes below the least one that is not complete yet.

- `headScan_run`: without timeouts a scan takes the unbroken run of complete superframes
- `delivered_in_order`: the result, for superframes below `2 ^ 64`
- `not_delivered_in_order`: behind that bound the order of the map is not that of the superframes,
  and without memory a superframe is lost
-/

namespace ElasticFrame

open ElasticFrame.Lib

/-! ## §1 What is claimed -/

/-- The least superframe not yet completely received. -/
def LeastMissing (T : Transmission) (as : List (Arrival (ℕ × ℕ))) (m : ℕ) : Prop :=
  IsLeast {k | ¬ T.Received as k} m

/-- What arrives is near the least superframe not yet completely received. -/
structure Window (T : Transmission) (as : List (Arrival (ℕ × ℕ))) : Prop where
  fresh : T.lSuperFrameNo = 0
  emitted : ∀ a ∈ as, T.Emits a
  start : ∀ a ∈ as.head?, a.superframe = 0
  near : EachCall (fun pre a => ∀ m, LeastMissing T pre m →
    m ≤ a.superframe + 4096 ∧ a.superframe < m + 4096) as

/-- When a call makes its pass, no bucket's deadline has passed. -/
def Traced.Quiet (s : Traced (ℕ × ℕ)) (lTimeNow : ℤ) : Prop :=
  ∀ i, (s.receiver.mBucketList i).mActive = true →
    lTimeNow < (s.receiver.mBucketList i).mTimeout + s.receiver.holTimeout

/-- No bucket's deadline passes. -/
def NoDeadline (B H : UInt32) : List (Arrival (ℕ × ℕ)) → Prop :=
  EachCall fun pre a => ∀ f, Fragment.ofPacket a.pSubPacket = some f →
    ((afterCalls B H pre).unpacked a f).Quiet a.amb.clockPass

/-- The superframes handed over are those below the least one that is missing, in this order, each
    once, unbroken and with the content that was sent. -/
def ExactlyInOrder (T : Transmission) (B H : UInt32) (as : List (Arrival (ℕ × ℕ))) : Prop :=
  ∀ m, LeastMissing T as m →
    (handedOver B H as).map HandOver.superframe = (List.range m).map some ∧
      ∀ x ∈ handedOver B H as, x.frame.mBroken = false ∧
        ∀ k, x.superframe = some k → (T.calls k).DeliveredAs x.frame

section LeastMissing

variable {T : Transmission} {as : List (Arrival (ℕ × ℕ))} {a : Arrival (ℕ × ℕ)} {m : ℕ}

theorem Transmission.Received.append {k : ℕ} (h : T.Received as k) (bs : List (Arrival (ℕ × ℕ))) :
    T.Received (as ++ bs) k := by
  intro j hj
  obtain ⟨b, hb, hlabel⟩ := h j hj
  exact ⟨b, List.mem_append_left _ hb, hlabel⟩

/-- Some superframe is missing: only finitely many arrived. -/
theorem exists_leastMissing (T : Transmission) (as : List (Arrival (ℕ × ℕ))) :
    ∃ m, LeastMissing T as m := by
  classical
  have hsome : ∃ k, ¬ T.Received as k := by
    -- all superframes that arrived are in a finite set
    obtain ⟨k, hk⟩ := Infinite.exists_notMem_finset (as.map Arrival.superframe).toFinset
    refine ⟨k, fun hreceived => hk ?_⟩
    obtain ⟨b, hb, hsame⟩ := hreceived.arrived
    exact List.mem_toFinset.mpr (List.mem_map.mpr ⟨b, hb, hsame⟩)
  exact ⟨Nat.find hsome, Nat.find_spec hsome, fun k hk => Nat.find_min' hsome hk⟩

namespace LeastMissing

/-- What is below was received. -/
theorem received (h : LeastMissing T as m) {k : ℕ} (hk : k < m) : T.Received as k := by
  by_contra hnot
  exact absurd (h.2 hnot) (Nat.not_le.mpr hk)

/-- It moves forward. -/
theorem mono {m' : ℕ} (h : LeastMissing T as m) (bs : List (Arrival (ℕ × ℕ)))
    (h' : LeastMissing T (as ++ bs) m') : m ≤ m' :=
  h.2 fun hreceived => h'.1 (hreceived.append bs)

/-- Before the first arrival everything is missing. -/
theorem nil (h : LeastMissing T [] m) : m = 0 := by
  by_contra hne
  obtain ⟨b, hb, -⟩ := (h.received (Nat.pos_of_ne_zero hne)).arrived
  exact absurd hb List.not_mem_nil

/-- It is at most one behind the last superframe that arrived. -/
theorem le_of_arrived {n : ℕ} (h : LeastMissing T as m) (hbelow : ∀ b ∈ as, b.superframe < n) :
    m ≤ n := by
  by_contra hlt
  obtain ⟨b, hb, hsame⟩ := (h.received (Nat.not_le.mp hlt)).arrived
  have hless := hbelow b hb
  omega

end LeastMissing

theorem Window.of_append {bs : List (Arrival (ℕ × ℕ))} (h : Window T (as ++ bs)) : Window T as where
  fresh := h.fresh
  emitted := fun b hb => h.emitted b (List.mem_append_left _ hb)
  start := fun b hb => h.start b (by
    rw [Option.mem_def] at hb ⊢
    rw [List.head?_append, hb]
    rfl)
  near := h.near.of_append

end LeastMissing

/-! ## §2 A scan without timeouts -/

/-- The order behind an order. -/
theorem orderOf_add_one (k : ℕ) : orderOf k + 1 = orderOf (k + 1 : ℕ) := by
  apply UInt64.toBitVec_inj.mp
  show BitVec.ofInt 64 k + 1#64 = BitVec.ofInt 64 (k + 1 : ℕ)
  rw [Nat.cast_add, BitVec.ofInt_add]
  rfl

/-- **A scan takes the unbroken run of complete superframes** from the head `n` up to the first
    one, `m`, that is not there or not complete. -/
theorem headScan_run (r : Receiver) (lTimeNow : ℤ) (index : Slot → ℕ) {es : List (UInt64 × Slot)}
    {n m : ℕ} (hnm : n ≤ m) (hsorted : es.Pairwise fun e e' => index e.2 < index e'.2)
    (horder : ∀ e ∈ es, ∀ k, n ≤ k → k ≤ m →
      ((r.mBucketList e.2).mDeliveryOrder = orderOf k ↔ index e.2 = k))
    (hquiet : ∀ e ∈ es, ¬ (r.mBucketList e.2).mTimeout + r.holTimeout ≤ lTimeNow)
    (hfrom : ∀ e ∈ es, n ≤ index e.2)
    (hall : ∀ k, n ≤ k → k < m → ∃ e ∈ es, index e.2 = k ∧ (r.mBucketList e.2).complete = true)
    (hgap : ∀ e ∈ es, index e.2 = m → (r.mBucketList e.2).complete = false) :
    (r.headScan lTimeNow es (orderOf n)).1.map (fun e => index e.2) = List.range' n (m - n) ∧
      (r.headScan lTimeNow es (orderOf n)).2 = orderOf m := by
  induction es generalizing n with
  | nil =>
    -- no entry, so there is no run
    have hsame : n = m := by
      by_contra hne
      obtain ⟨e, he, -⟩ := hall n le_rfl (Nat.lt_of_le_of_ne hnm hne)
      exact absurd he List.not_mem_nil
    rw [hsame, Nat.sub_self]
    exact ⟨rfl, rfl⟩
  | cons e es ih =>
    obtain ⟨hbehind, htail⟩ := List.pairwise_cons.mp hsorted
    rcases Nat.eq_or_lt_of_le hnm with hsame | hlt
    · -- the run is over
      have hblocked : ¬ ((r.mBucketList e.2).mDeliveryOrder = orderOf n ∧
          (r.mBucketList e.2).complete) := by
        rintro ⟨hhead, hcomplete⟩
        have hindex := (horder e List.mem_cons_self n le_rfl hnm).mp hhead
        rw [hgap e List.mem_cons_self (hindex.trans hsame)] at hcomplete
        exact absurd hcomplete Bool.false_ne_true
      rw [r.headScan_blocked lTimeNow es hblocked (hquiet e List.mem_cons_self), hsame,
        Nat.sub_self]
      exact ⟨rfl, rfl⟩
    · -- the superframe at the head is the first entry
      obtain ⟨e', he', hindex, hcomplete⟩ := hall n le_rfl hlt
      have hfirst : e' = e := by
        rcases List.mem_cons.mp he' with heq | he'
        · exact heq
        · have hless := hbehind e' he'
          have hle := hfrom e List.mem_cons_self
          omega
      subst hfirst
      have hrest := ih (n := n + 1) hlt htail
        (fun e he k hk => horder e (List.mem_cons_of_mem _ he) k (by omega))
        (fun e he => hquiet e (List.mem_cons_of_mem _ he))
        (fun e he => hindex ▸ hbehind e he)
        (fun k hk hkm => by
          obtain ⟨e'', he'', hk', hcomplete'⟩ := hall k (by omega) hkm
          rcases List.mem_cons.mp he'' with rfl | he''
          · omega
          · exact ⟨e'', he'', hk', hcomplete'⟩)
        (fun e he => hgap e (List.mem_cons_of_mem _ he))
      have hhead := (horder e' List.mem_cons_self n le_rfl hnm).mpr hindex
      rw [r.headScan_expected lTimeNow es ⟨hhead, hcomplete⟩, orderOf_add_one]
      have hcount : m - n = m - (n + 1) + 1 := by omega
      refine ⟨?_, hrest.2⟩
      rw [List.map_cons, hrest.1, hindex, hcount, List.range'_succ]

/-! ## §3 A call within the window -/

section Calls

variable {T : Transmission} {as : List (Arrival (ℕ × ℕ))} {s : Traced (ℕ × ℕ)}
  {hs : List (HandOver (ℕ × ℕ))} {a : Arrival (ℕ × ℕ)} {f : Fragment} {m : ℕ}

/-- A receiver that has handed over all superframes below `m`, and has seen none that is 4096 or
    more ahead. -/
structure Windowed (T : Transmission) (m : ℕ) (as : List (Arrival (ℕ × ℕ))) (s : Traced (ℕ × ℕ))
    (hs : List (HandOver (ℕ × ℕ))) : Prop where
  ready : Ready T (2 ^ 64) as s hs
  paced : Paced 8192 as s
  handed : ∀ k < m, HandedOut hs k
  ahead : ∀ b ∈ as, b.superframe < m + 4096

/-- A fragment near the least superframe that is missing. -/
structure Nearby (T : Transmission) (m : ℕ) (as : List (Arrival (ℕ × ℕ))) (a : Arrival (ℕ × ℕ)) :
    Prop where
  emitted : T.Emits a
  start : as = [] → a.superframe = 0
  behind : m ≤ a.superframe + 4096
  ahead : a.superframe < m + 4096

namespace Windowed

/-- What was handed over arrived. -/
theorem reached (h : Windowed T m as s hs) {k : ℕ} (hk : k < m) :
    ∃ o, s.owner (ringSlot k) = some o ∧ o ∈ as ∧ k ≤ o.superframe ∧ ¬ s.Holds k := by
  obtain ⟨o, howner, hle, hnot⟩ := h.ready.kept.released k (h.handed k hk)
  exact ⟨o, howner, h.ready.tracked.owned _ o howner, hle, hnot⟩

/-- A bucket in use is for a superframe that was not handed over. -/
theorem le_owner (h : Windowed T m as s hs) {i : Slot}
    (hactive : (s.receiver.mBucketList i).mActive = true) {o : Arrival (ℕ × ℕ)}
    (howner : s.owner i = some o) : m ≤ o.superframe := by
  by_contra hlt
  obtain ⟨-, -, -, -, hnot⟩ := h.reached (Nat.not_le.mp hlt)
  rw [h.ready.tracked.slot_eq howner] at hactive howner
  exact hnot ⟨hactive, o, howner, rfl⟩

/-- A fragment near the least superframe that is missing is admitted. -/
theorem admits (h : Windowed T m as s hs) (ha : Nearby T m as a) : Admits T s a where
  emitted := ha.emitted
  rank := by
    intro _
    have hbehind := ha.behind
    have hahead := ha.ahead
    apply h.ready.tracked.rank h.paced
    · intro hempty
      rw [ha.start hempty]
      decide
    · intro c hc
      obtain ⟨hmem, hpast⟩ := h.paced.ahead c hc
      have hc := h.ahead c hmem
      -- the superframe before `m` arrived, so the last one renumbered is not far behind
      have hreach : m ≤ c.superframe + 8192 := by
        rcases Nat.eq_zero_or_pos m with rfl | hpos
        · exact Nat.zero_le _
        · obtain ⟨o, -, ho, hle, -⟩ := h.reached (k := m - 1) (by omega)
          have hlt := hpast o ho
          omega
      rw [abs_lt]
      omega
  free := by
    intro hactive
    obtain ⟨o, _, howner, -⟩ := h.ready.tracked.held _ hactive
    refine ⟨o, howner, ?_⟩
    -- both are near `m`, and of one slot
    have hmod := ringSlot_inj (h.ready.tracked.slot_eq howner)
    have hle := h.le_owner hactive howner
    have hlt := h.ahead o (h.ready.tracked.owned _ o howner)
    have hbehind := ha.behind
    have hahead := ha.ahead
    omega

/-- A slot that was never opened does not bear the order of the superframe. -/
private theorem first (h : Windowed T m as s hs) (ha : Nearby T m as a)
    (hlt : a.superframe < 2 ^ 64) (hnone : s.owner (ringSlot a.superframe) = none) :
    orderOf a.superframe ≠ UINT64_MAX := by
  apply orderOf_ne_max
  by_contra hlast
  have hahead := ha.ahead
  -- the slot of superframe `2 ^ 64 - 1` was opened for superframe 8191
  obtain ⟨o, howner, -⟩ := h.reached (k := 8191) (by omega)
  have hslot : ringSlot a.superframe = ringSlot 8191 := by
    have hindex : a.superframe = 2 ^ 64 - 1 := by omega
    rw [hindex]
    rfl
  rw [hslot, howner] at hnone
  exact absurd hnone (by simp)

/-- **A call within the window unpacks its fragment.** -/
theorem unpacked (h : Windowed T m as s hs) (ha : Nearby T m as a)
    (hpacket : Fragment.ofPacket a.pSubPacket = some f) (halloc : a.amb.allocates = true) :
    Windowed T m (as ++ [a]) (s.unpacked a f) hs := by
  have hadmits := h.admits ha
  have hbehind := ha.behind
  have hlate : ∀ b ∈ as, b.superframe < a.superframe + 8192 := by
    intro b hb
    have hlt := h.ahead b hb
    omega
  have hlate' : ∀ b ∈ as ++ [a], b.superframe < a.superframe + 8192 :=
    forall_concat.mpr ⟨hlate, Nat.lt_add_of_pos_right (by decide)⟩
  exact
    { ready := h.ready.unpacked hadmits hpacket halloc hlate le_rfl fun hlt hnone =>
        h.first ha hlt hnone
      paced := h.paced.taken h.ready.tracked hadmits.free hlate'
        (h.ready.tracked.taken h.ready.recorded hadmits hpacket)
      handed := h.handed
      ahead := forall_concat.mpr ⟨h.ahead, ha.ahead⟩ }

/-- A pass hands superframes over. -/
theorem concluded {m' : ℕ} (h : Windowed T m as s hs) (lTimeNow : ℤ) (hle : m ≤ m')
    (hhanded : ∀ k < m', HandedOut (hs ++ s.passHands lTimeNow) k) :
    Windowed T m' as (s.concluded lTimeNow) (hs ++ s.passHands lTimeNow) where
  ready := h.ready.concluded lTimeNow
  paced := ⟨h.paced.start, h.paced.ahead⟩
  handed := hhanded
  ahead := fun b hb => by
    have hlt := h.ahead b hb
    omega

/-- **A call within the window keeps it there.** -/
theorem call {B H : UInt32} (h : Windowed T m as (afterCalls B H as) (handedOver B H as))
    (ha : Nearby T m as a) (halloc : a.amb.allocates = true) :
    Windowed T m (as ++ [a]) (afterCalls B H (as ++ [a])) (handedOver B H (as ++ [a])) := by
  obtain ⟨f, hpacket, -⟩ := (h.admits ha).fragment
  rw [handedOver_concat, (call_eq hpacket).1, (call_eq hpacket).2]
  exact (h.unpacked ha hpacket halloc).concluded _ le_rfl fun k hk =>
    HandedOut.append.mpr (Or.inl (h.handed k hk))

end Windowed

end Calls

/-! ## §4 A pass without timeouts -/

section Pass

variable {T : Transmission} {as : List (Arrival (ℕ × ℕ))} {s : Traced (ℕ × ℕ)}
  {hs : List (HandOver (ℕ × ℕ))} {m m' : ℕ} {lTimeNow : ℤ}

/-- The superframe whose fragment opened the slot. -/
private def Traced.index (s : Traced (ℕ × ℕ)) (i : Slot) : ℕ :=
  ((s.owner i).map Arrival.superframe).getD 0

private theorem Traced.index_eq {i : Slot} {o : Arrival (ℕ × ℕ)} (howner : s.owner i = some o) :
    s.index i = o.superframe := by
  rw [Traced.index, howner]
  rfl

/-- A superframe that arrived and was not handed over has an entry. -/
private theorem Windowed.entry (h : Windowed T m as s hs) {k : ℕ} (hreceived : T.Received as k)
    (hnot : ¬ HandedOut hs k) (hlt : k < 2 ^ 64) :
    s.Holds k ∧ (orderOf k, ringSlot k) ∈ s.receiver.mBucketMap.toList := by
  obtain ⟨b, hb, rfl⟩ := hreceived.arrived
  have hheld := (h.ready.kept.retained b hb hlt).resolve_left hnot
  obtain ⟨hactive, o, howner, hsame⟩ := id hheld
  refine ⟨hheld, (h.ready.tracked.entry h.ready.coherent).mpr ⟨hactive, o, howner, ?_⟩⟩
  rw [hsame]

/-- What an entry of the map is. -/
private theorem Windowed.key (h : Windowed T m as s hs)
    (hindex : ∀ b ∈ as, b.superframe < 2 ^ 64) {e : UInt64 × Slot}
    (he : e ∈ s.receiver.mBucketMap.toList) :
    ∃ o, s.owner e.2 = some o ∧ (s.receiver.mBucketList e.2).mActive = true ∧
      e.1.toNat = o.superframe ∧ m ≤ o.superframe ∧ o.superframe < m + 4096 := by
  obtain ⟨o, hmem, howner, hactive, hsame⟩ := h.ready.tracked.key h.ready.coherent hindex he
  exact ⟨o, howner, hactive, hsame, h.le_owner hactive howner, h.ahead o hmem⟩

/-- The entries stand in the order of their superframes. -/
private theorem Windowed.sorted (h : Windowed T m as s hs)
    (hindex : ∀ b ∈ as, b.superframe < 2 ^ 64) :
    s.receiver.mBucketMap.toList.Pairwise fun e e' => s.index e.2 < s.index e'.2 := by
  apply (Receiver.toList_sorted s.receiver.mBucketMap).imp_of_mem
  intro e e' he he' hlt
  obtain ⟨o, howner, -, hsame, -⟩ := h.key hindex he
  obtain ⟨o', howner', -, hsame', -⟩ := h.key hindex he'
  rw [Traced.index_eq howner, Traced.index_eq howner', ← hsame, ← hsame']
  exact hlt

/-- Within the window an order belongs to one superframe. -/
private theorem Windowed.order_iff (h : Windowed T m as s hs)
    (hindex : ∀ b ∈ as, b.superframe < 2 ^ 64) {e : UInt64 × Slot}
    (he : e ∈ s.receiver.mBucketMap.toList) {k : ℕ} (hk : m ≤ k) (hk' : k ≤ m + 4096) :
    (s.receiver.mBucketList e.2).mDeliveryOrder = orderOf k ↔ s.index e.2 = k := by
  obtain ⟨o, howner, -, -, hlo, hhi⟩ := h.key hindex he
  rw [h.ready.tracked.order_eq howner, Traced.index_eq howner]
  constructor
  · intro heq
    have hrank := orderOf_inj (abs_lt.mpr ⟨by omega, by omega⟩) heq
    omega
  · rintro rfl
    rfl

/-- The superframes before the missing one are there, and complete. -/
private theorem Windowed.complete_below (h : Windowed T m as s hs)
    (hmissing : LeastMissing T as m') (hindex : ∀ b ∈ as, b.superframe < 2 ^ 64)
    (honly : ∀ k, HandedOut hs k → k < m) {k : ℕ} (hk : m ≤ k) (hk' : k < m') :
    ∃ e ∈ s.receiver.mBucketMap.toList,
      s.index e.2 = k ∧ (s.receiver.mBucketList e.2).complete = true := by
  have hreceived := hmissing.received hk'
  have hnot : ¬ HandedOut hs k := fun hhanded => absurd (honly k hhanded) (Nat.not_lt.mpr hk)
  obtain ⟨b, hb, hsame⟩ := hreceived.arrived
  obtain ⟨hheld, hmem⟩ := h.entry hreceived hnot (hsame ▸ hindex b hb)
  obtain ⟨-, o, howner, hsuperframe⟩ := id hheld
  have hcomplete := h.ready.kept.complete_iff h.ready.tracked h.ready.recorded hheld
  exact ⟨_, hmem, (Traced.index_eq howner).trans hsuperframe, hcomplete.mpr hreceived⟩

/-- The missing one is not complete. -/
private theorem Windowed.incomplete_at (h : Windowed T m as s hs)
    (hmissing : LeastMissing T as m') (hindex : ∀ b ∈ as, b.superframe < 2 ^ 64)
    {e : UInt64 × Slot} (he : e ∈ s.receiver.mBucketMap.toList) (hsame : s.index e.2 = m') :
    (s.receiver.mBucketList e.2).complete = false := by
  obtain ⟨o, howner, hactive, -⟩ := h.key hindex he
  rw [Traced.index_eq howner] at hsame
  have hslot := h.ready.tracked.slot_eq howner
  rw [hsame] at hslot
  rw [hslot] at hactive howner ⊢
  have hheld : s.Holds m' := ⟨hactive, o, howner, hsame⟩
  have hcomplete := h.ready.kept.complete_iff h.ready.tracked h.ready.recorded hheld
  exact Bool.eq_false_iff.mpr fun hwhole => hmissing.1 (hcomplete.mp hwhole)

/-- **A pass without timeouts hands over the complete superframes up to the first one that is
    missing**, and stops there. -/
theorem Windowed.pass (h : Windowed T m as s hs) (hmissing : LeastMissing T as m')
    (hle : m ≤ m') (hindex : ∀ b ∈ as, b.superframe < 2 ^ 64)
    (honly : ∀ k, HandedOut hs k → k < m) (hhol : s.receiver.mHeadOfLineBlockingTimeoutms ≠ 0)
    (hstarted : s.receiver.mBucketMap.toList = [] → s.receiver.mDeliveryHOLFirstRun = false)
    (hhead : s.receiver.passHead = orderOf m) (hquiet : s.Quiet lTimeNow) :
    (s.passHands lTimeNow).map HandOver.superframe = (List.range' m (m' - m)).map some ∧
      (s.concluded lTimeNow).receiver.mDeliveryHOLFirstRun = false ∧
      (s.concluded lTimeNow).receiver.mNextExpectedFrameNumber = orderOf m' := by
  have hbound := hmissing.le_of_arrived h.ahead
  have hwaits : ∀ e ∈ s.receiver.mBucketMap.toList,
      ¬ (s.receiver.mBucketList e.2).mTimeout + s.receiver.holTimeout ≤ lTimeNow := by
    intro e he
    obtain ⟨-, -, hactive, -⟩ := h.key hindex he
    exact not_le.mpr (hquiet e.2 hactive)
  have hfrom : ∀ e ∈ s.receiver.mBucketMap.toList, m ≤ s.index e.2 := by
    intro e he
    obtain ⟨o, howner, -, -, hlo, -⟩ := h.key hindex he
    rw [Traced.index_eq howner]
    exact hlo
  obtain ⟨hselected, hnext⟩ := headScan_run s.receiver lTimeNow s.index hle (h.sorted hindex)
    (fun e he k hk hk' => h.order_iff hindex he hk (hk'.trans hbound)) hwaits hfrom
    (fun k hk hk' => h.complete_below hmissing hindex honly hk hk')
    (fun e he hsame => h.incomplete_at hmissing hindex he hsame)
  have hpass := Receiver.scan_of_started lTimeNow hhol hstarted
  rw [hhead] at hpass
  refine ⟨?_, congrArg Receiver.Scan.mDeliveryHOLFirstRun hpass, ?_⟩
  · -- what is handed over for an entry is the superframe of its owner
    rw [h.ready.tracked.passHands_superframes h.ready.coherent, ← hselected, List.map_map]
    have hsub := s.receiver.scan_sublist lTimeNow
    rw [hpass] at hsub ⊢
    apply List.map_congr_left
    intro e he
    obtain ⟨o, howner, -⟩ := h.key hindex (hsub.subset he)
    show (s.owner e.2).map Arrival.superframe = some (s.index e.2)
    rw [Traced.index_eq howner, howner]
    rfl
  · rw [← hnext]
    exact congrArg Receiver.Scan.mNextExpectedFrameNumber hpass

end Pass

/-! ## §5 Every run -/

section Runs

variable {T : Transmission} {B H : UInt32} {as : List (Arrival (ℕ × ℕ))} {a : Arrival (ℕ × ℕ)}
  {m m' : ℕ}

/-- A receiver that has handed over the superframes below `m`, in order, and whose head is `m` once
    it is set. -/
structure Ordered (T : Transmission) (m : ℕ) (as : List (Arrival (ℕ × ℕ))) (s : Traced (ℕ × ℕ))
    (hs : List (HandOver (ℕ × ℕ))) : Prop where
  windowed : Windowed T m as s hs
  missing : LeastMissing T as m
  order : hs.map HandOver.superframe = (List.range m).map some
  unbroken : ∀ x ∈ hs, x.frame.mBroken = false
  head : (as = [] ∧ s.receiver.mDeliveryHOLFirstRun = true) ∨
    (s.receiver.mDeliveryHOLFirstRun = false ∧ s.receiver.mNextExpectedFrameNumber = orderOf m)

private theorem handedOut_of_order {hs : List (HandOver (ℕ × ℕ))}
    (horder : hs.map HandOver.superframe = (List.range m).map some) {k : ℕ} :
    HandedOut hs k ↔ k < m := by
  have hmem : some k ∈ hs.map HandOver.superframe ↔ k < m := by simp [horder]
  rw [← hmem, List.mem_map]
  rfl

/-- A fresh receiver. -/
private theorem ordered_fresh (hfresh : T.lSuperFrameNo = 0) (B H : UInt32)
    (hmissing : LeastMissing T [] m) : Ordered T m [] (afterCalls B H []) (handedOver B H []) := by
  obtain rfl := hmissing.nil
  exact
    { windowed :=
        { ready := Ready.fresh hfresh _ B H
          paced := paced_fresh 8192 B H
          handed := fun k hk => absurd hk (Nat.not_lt_zero k)
          ahead := fun b hb => absurd hb List.not_mem_nil }
      missing := hmissing
      order := rfl
      unbroken := fun x hx => absurd hx List.not_mem_nil
      head := Or.inl ⟨rfl, rfl⟩ }

/-- Where a pass starts: at the least superframe that is missing. The first one of a run is
    superframe 0. -/
private theorem Ordered.start {s : Traced (ℕ × ℕ)} {hs : List (HandOver (ℕ × ℕ))}
    (h : Ordered T m as s hs) (ha : Nearby T m as a) {f : Fragment}
    (hpacket : Fragment.ofPacket a.pSubPacket = some f) (halloc : a.amb.allocates = true) :
    ((s.unpacked a f).receiver.mBucketMap.toList = [] →
        (s.unpacked a f).receiver.mDeliveryHOLFirstRun = false) ∧
      (s.unpacked a f).receiver.passHead = orderOf m := by
  have hsame := s.receiver.unpackFragment_sameDelivery f a.lFromSource a.amb
  have hfirst : (s.unpacked a f).receiver.mDeliveryHOLFirstRun = s.receiver.mDeliveryHOLFirstRun :=
    hsame.holFirstRun
  have hnext : (s.unpacked a f).receiver.mNextExpectedFrameNumber =
      s.receiver.mNextExpectedFrameNumber := hsame.nextExpected
  rcases h.head with ⟨rfl, hrun⟩ | ⟨hrun, hhead⟩
  · -- the first run takes the head from the map
    obtain rfl := h.missing.nil
    have hunpacked := h.windowed.unpacked ha hpacket halloc
    have hnone : ¬ HandedOut hs a.superframe := fun hhanded =>
      absurd ((handedOut_of_order h.order).mp hhanded) (Nat.not_lt_zero _)
    have hzero := ha.start rfl
    -- the call opened the bucket of superframe 0
    obtain ⟨hactive, o, howner, hsuperframe⟩ := (hunpacked.ready.kept.retained a
      (List.mem_singleton_self a) (by rw [hzero]; decide)).resolve_left hnone
    have hentry := (hunpacked.ready.tracked.entry hunpacked.ready.coherent
      (e := (orderOf 0, ringSlot a.superframe))).mpr
        ⟨hactive, o, howner, by rw [hsuperframe, hzero]; rfl⟩
    refine ⟨fun hempty => absurd (hempty ▸ hentry) List.not_mem_nil, ?_⟩
    rw [Receiver.passHead, hfirst, if_pos hrun]
    have hle := Receiver.beginOrder_le
      (fun e he => (hunpacked.ready.coherent.entry ((Receiver.mem_toList_iff _ e).mp he)).2) hentry
    exact UInt64.toNat_inj.mp (Nat.le_zero.mp hle)
  · refine ⟨fun _ => hfirst.trans hrun, ?_⟩
    rw [Receiver.passHead, hfirst, hnext, hrun, if_neg Bool.false_ne_true]
    exact hhead

/-- **A call hands over what it makes possible.** -/
private theorem Ordered.call (h : Ordered T m as (afterCalls B H as) (handedOver B H as))
    (hhol : H ≠ 0) (ha : Nearby T m as a) (halloc : a.amb.allocates = true)
    (hindex : ∀ b ∈ as ++ [a], b.superframe < 2 ^ 64) (hquiet : NoDeadline B H (as ++ [a]))
    (hmissing : LeastMissing T (as ++ [a]) m') :
    Ordered T m' (as ++ [a]) (afterCalls B H (as ++ [a])) (handedOver B H (as ++ [a])) := by
  obtain ⟨f, hpacket, -⟩ := (h.windowed.admits ha).fragment
  have hunpacked := h.windowed.unpacked ha hpacket halloc
  obtain ⟨hstarted, hhead⟩ := h.start ha hpacket halloc
  have hle := h.missing.mono [a] hmissing
  have hconfigured := (afterCalls_configured B H as).unpack f a.lFromSource a.amb
  obtain ⟨hpass, hrun, hnext⟩ := hunpacked.pass hmissing hle hindex
    (fun k => (handedOut_of_order h.order).mp)
    (fun hzero => hhol (hconfigured.holTimeoutms.symm.trans hzero)) hstarted hhead
    (hquiet.last f hpacket)
  rw [handedOver_concat, (call_eq hpacket).1, (call_eq hpacket).2]
  generalize (afterCalls B H as).unpacked a f = s at hunpacked hpass hrun hnext ⊢
  -- the superframes below `m`, and then those from `m` up to `m'`
  have horder : (handedOver B H as ++ s.passHands a.amb.clockPass).map HandOver.superframe =
      (List.range m').map some := by
    rw [List.map_append, h.order, hpass, ← List.map_append, List.range_eq_range',
      List.range_eq_range']
    have hjoin := List.range'_append_1 (s := 0) (m := m) (n := m' - m)
    rw [Nat.zero_add, Nat.add_sub_of_le hle] at hjoin
    rw [hjoin]
  exact
    { windowed := hunpacked.concluded _ hle fun k hk => (handedOut_of_order horder).mpr hk
      missing := hmissing
      order := horder
      unbroken := by
        intro x hx
        rcases List.mem_append.mp hx with hold | hnew
        · exact h.unbroken x hold
        · -- what the pass hands over was received
          have hmem : x.superframe ∈ (List.range' m (m' - m)).map some :=
            hpass ▸ List.mem_map_of_mem hnew
          obtain ⟨k, hk, hsuperframe⟩ := List.mem_map.mp hmem
          have hlt : k < m' := by
            have := List.mem_range'_1.mp hk
            omega
          exact (hunpacked.ready.handed hnew hsuperframe.symm).1.mpr (hmissing.received hlt)
      head := Or.inr ⟨hrun, hnext⟩ }

/-- The last fragment of a window is near. -/
private theorem Window.nearby (h : Window T (as ++ [a])) (hmissing : LeastMissing T as m) :
    Nearby T m as a where
  emitted := h.emitted a mem_concat_self
  start := by
    rintro rfl
    exact h.start a rfl
  behind := (h.near.last m hmissing).1
  ahead := (h.near.last m hmissing).2

/-- **The receiver of a window is ordered, after any number of calls.** -/
private theorem Window.ordered (hhol : H ≠ 0) (hwindow : Window T as)
    (halloc : ∀ a ∈ as, a.amb.allocates = true) (hindex : ∀ a ∈ as, a.superframe < 2 ^ 64)
    (hquiet : NoDeadline B H as) {m : ℕ} (hmissing : LeastMissing T as m) :
    Ordered T m as (afterCalls B H as) (handedOver B H as) := by
  induction as using List.reverseRecOn generalizing m with
  | nil => exact ordered_fresh hwindow.fresh B H hmissing
  | append_singleton as a ih =>
    obtain ⟨n, hbefore⟩ := exists_leastMissing T as
    obtain ⟨halloc, hnow⟩ := forall_concat.mp halloc
    have hindices := (forall_concat.mp hindex).1
    have hordered := ih hwindow.of_append halloc hindices hquiet.of_append hbefore
    exact hordered.call hhol (hwindow.nearby hbefore) hnow hindex hquiet hmissing

/-- **In-order delivery.** -/
theorem delivered_in_order (hhol : H ≠ 0) (hwindow : Window T as)
    (halloc : ∀ a ∈ as, a.amb.allocates = true) (hindex : ∀ a ∈ as, a.superframe < 2 ^ 64)
    (hquiet : NoDeadline B H as) :
    EachCall (fun pre a => ExactlyInOrder T B H (pre ++ [a])) as := by
  rintro pre a post rfl m hmissing
  have hsplit : pre ++ a :: post = (pre ++ [a]) ++ post := by rw [List.append_assoc]; rfl
  rw [hsplit] at hwindow halloc hindex hquiet
  have hordered := hwindow.of_append.ordered hhol (fun b hb => halloc b (List.mem_append_left _ hb))
    (fun b hb => hindex b (List.mem_append_left _ hb)) hquiet.of_append hmissing
  exact ⟨hordered.order, fun x hx => ⟨hordered.unbroken x hx, fun k hk =>
    hordered.windowed.ready.content x hx k hk (hordered.unbroken x hx)⟩⟩

end Runs

/-! ## §6 Two runs -/

section TwoRuns

variable {B H : UInt32} {as : List (Arrival (ℕ × ℕ))} {a : Arrival (ℕ × ℕ)} {m : ℕ}

/-- **No deadline passes in a run that is shorter than the timeouts.** -/
theorem noDeadline_of_short {t : ℤ} (hopen : ∀ a ∈ as, t ≤ a.amb.clockOpen)
    (hpass : ∀ a ∈ as, a.amb.clockPass < t + microseconds B + microseconds H) :
    NoDeadline B H as := by
  rintro pre a post rfl f - i hactive
  have hbefore : ∀ b ∈ pre, b ∈ pre ++ a :: post := fun b hb => List.mem_append_left _ hb
  have hnow : a ∈ pre ++ a :: post := List.mem_append_right _ List.mem_cons_self
  have hconfigured := afterCalls_configured B H pre
  have hsince : (afterCalls B H pre).InUse (OpenedSince B t) := by
    apply openedSince_run
    intro b hb
    obtain ⟨c, hc, hsame⟩ := List.mem_map.mp hb
    rw [← Event.receiveFragment.inj hsame]
    exact hopen c (hbefore c hc)
  -- the deadline of a bucket in use is behind the end of the run
  have hdeadline : t + microseconds B ≤ _ :=
    openedSince_unpacked B H _ hconfigured hsince (hopen a hnow) f i hactive
  have hhol : ((afterCalls B H pre).unpacked a f).receiver.holTimeout = microseconds H :=
    (hconfigured.unpack f a.lFromSource a.amb).holTimeout
  have hlt := hpass a hnow
  rw [hhol]
  omega

/-- The fragment of superframe `k`, of one byte. -/
private def nth (k : ℕ) : Arrival (ℕ × ℕ) :=
  oneByteArrival k ((Transmission.oneByteEach 0).number k)

/-- What is missing of superframes of one byte. -/
private theorem leastMissing_oneByte (hemitted : ∀ b ∈ as, (Transmission.oneByteEach 0).Emits b)
    (hall : ∀ k < m, ∃ b ∈ as, b.superframe = k) (hgap : ∀ b ∈ as, b.superframe ≠ m) :
    LeastMissing (Transmission.oneByteEach 0) as m := by
  constructor
  · intro hreceived
    obtain ⟨b, hb, hsame⟩ := Transmission.Received.arrived hreceived
    exact hgap b hb hsame
  · intro k hk
    by_contra hlt
    obtain ⟨b, hb, rfl⟩ := hall k (Nat.not_le.mp hlt)
    exact hk (Transmission.oneByteEach_received hb (hemitted b hb))

/-- Before the first arrival, superframe 0 is missing. -/
private theorem leastMissing_nil : LeastMissing (Transmission.oneByteEach 0) [] 0 :=
  leastMissing_oneByte (fun _ hb => absurd hb List.not_mem_nil)
    (fun k hk => absurd hk (Nat.not_lt_zero k)) (fun _ hb => absurd hb List.not_mem_nil)

/-- One more fragment of a window. -/
private theorem Window.concat {T : Transmission} (h : Window T as) (hmissing : LeastMissing T as m)
    (ha : Nearby T m as a) : Window T (as ++ [a]) where
  fresh := h.fresh
  emitted := forall_concat.mpr ⟨h.emitted, ha.emitted⟩
  start := by
    cases as with
    | nil =>
      intro b hb
      obtain rfl := Option.some.inj hb
      exact ha.start rfl
    | cons b as => exact h.start
  near := h.near.concat fun m' hmissing' => by
    obtain rfl := hmissing.unique hmissing'
    exact ⟨ha.behind, ha.ahead⟩

private theorem window_nil : Window (Transmission.oneByteEach 0) [] where
  fresh := rfl
  emitted := fun _ hb => absurd hb List.not_mem_nil
  start := fun _ hb => absurd hb (by simp)
  near := EachCall.nil

/-- The next fragment of such superframes, when `m` is missing. -/
private theorem nearby_nth {k : ℕ} (hstart : as = [] → k = 0) (hbehind : m ≤ k + 4096)
    (hahead : k < m + 4096) : Nearby (Transmission.oneByteEach 0) m as (nth k) where
  emitted := Transmission.oneByteEach_emits 0 k
  start := hstart
  behind := hbehind
  ahead := hahead

/-- Three superframes, the last two of them swapped. -/
def swappedWindow : List (Arrival (ℕ × ℕ)) :=
  [oneByteArrival 0 0, oneByteArrival 2 2, oneByteArrival 1 1]

/-- `swappedWindow` is delivered in order. -/
theorem delivered_in_order_swapped :
    EachCall (fun pre a => ExactlyInOrder (Transmission.oneByteEach 0) 100 50 (pre ++ [a]))
      swappedWindow := by
  -- the least superframe that is missing is 0, then 1, and 1 again
  have hfirst := window_nil.concat leastMissing_nil
    (nearby_nth (k := 0) (by simp) (by decide) (by decide))
  have hone := leastMissing_oneByte (m := 1) hfirst.emitted (by decide) (by decide)
  have hsecond := hfirst.concat hone (nearby_nth (k := 2) (by simp) (by decide) (by decide))
  have htwo := leastMissing_oneByte (m := 1) hsecond.emitted (by decide) (by decide)
  have hwindow : Window (Transmission.oneByteEach 0) swappedWindow :=
    hsecond.concat htwo (nearby_nth (k := 1) (by simp) (by decide) (by decide))
  exact delivered_in_order (by decide) hwindow (by decide) (by decide)
    (noDeadline_of_short (t := 0) (by decide) (by decide))

/-- The superframes below `n`, in order. -/
def countArrivals (n : ℕ) : List (Arrival (ℕ × ℕ)) := (List.range n).map nth

private theorem countArrivals_succ (n : ℕ) :
    countArrivals (n + 1) = countArrivals n ++ [nth n] := by
  rw [countArrivals, List.range_succ, List.map_append]
  rfl

private theorem mem_countArrivals {n : ℕ} {a : Arrival (ℕ × ℕ)} :
    a ∈ countArrivals n ↔ ∃ k < n, a = nth k := by
  simp [countArrivals, eq_comm]

private theorem leastMissing_count (n : ℕ) :
    LeastMissing (Transmission.oneByteEach 0) (countArrivals n) n := by
  apply leastMissing_oneByte
  · intro b hb
    obtain ⟨k, -, rfl⟩ := mem_countArrivals.mp hb
    exact Transmission.oneByteEach_emits 0 k
  · exact fun k hk => ⟨nth k, mem_countArrivals.mpr ⟨k, hk, rfl⟩, rfl⟩
  · intro b hb
    obtain ⟨k, hk, rfl⟩ := mem_countArrivals.mp hb
    exact Nat.ne_of_lt hk

private theorem window_count (n : ℕ) : Window (Transmission.oneByteEach 0) (countArrivals n) := by
  induction n with
  | zero => exact window_nil
  | succ n ih =>
    rw [countArrivals_succ]
    apply ih.concat (leastMissing_count n)
    apply nearby_nth _ (by omega) (by omega)
    intro hempty
    simpa [countArrivals] using hempty

/-- Every reading of the clock is zero. -/
private theorem noDeadline_nth (hnth : ∀ a ∈ as, ∃ k, a = nth k) : NoDeadline 100 50 as := by
  apply noDeadline_of_short (t := 0)
  · intro a ha
    obtain ⟨k, rfl⟩ := hnth a ha
    exact le_rfl
  · intro a ha
    obtain ⟨k, rfl⟩ := hnth a ha
    show (0 : ℤ) < 0 + microseconds 100 + microseconds 50
    decide

/-- A pass does not hand over superframe `2 ^ 64 - 1` and then `2 ^ 64`: the map has them in the
    opposite order. -/
private theorem Tracked.not_across_wrap {T : Transmission} {s : Traced (ℕ × ℕ)}
    (h : Tracked T as s) (hcoherent : s.receiver.Coherent) {n : ℕ} (hn : n + 1 = 2 ^ 64)
    (lTimeNow : ℤ) :
    (s.passHands lTimeNow).map HandOver.superframe ≠ [some n, some (n + 1)] := by
  intro hboth
  rw [h.passHands_superframes hcoherent] at hboth
  have hsub := s.receiver.scan_sublist lTimeNow
  have hsorted := (Receiver.toList_sorted s.receiver.mBucketMap).sublist hsub
  obtain ⟨e, rest, hselected, hfirst, hrest⟩ := List.map_eq_cons_iff.mp hboth
  obtain ⟨e', _, rfl, -, -⟩ := List.map_eq_cons_iff.mp hrest
  rw [hselected] at hsub hsorted
  obtain ⟨o, howner, hindex⟩ := Option.map_eq_some_iff.mp hfirst
  obtain ⟨-, o', howner', horder⟩ := (h.entry hcoherent).mp (hsub.subset List.mem_cons_self)
  obtain rfl := Option.some.inj (howner.symm.trans howner')
  -- the key of the first one is the largest there is
  have htoNat := orderOf_toNat (r := o.superframe) (by omega) (by omega)
  rw [← horder, hindex] at htoNat
  have hless := (List.pairwise_cons.mp hsorted).1 e' List.mem_cons_self
  have hlt := e'.1.toNat_lt
  omega

/-- The superframes below `n`, the one behind the next one, and then the next one. -/
def skipArrivals (n : ℕ) : List (Arrival (ℕ × ℕ)) := countArrivals n ++ [nth (n + 1)] ++ [nth n]

private theorem mem_skipArrivals {n : ℕ} {a : Arrival (ℕ × ℕ)} (ha : a ∈ skipArrivals n) :
    ∃ k < n + 2, a = nth k := by
  simp only [skipArrivals, List.mem_append, List.mem_singleton] at ha
  rcases ha with (ha | rfl) | rfl
  · obtain ⟨k, hk, rfl⟩ := mem_countArrivals.mp ha
    exact ⟨k, by omega, rfl⟩
  · exact ⟨n + 1, by omega, rfl⟩
  · exact ⟨n, by omega, rfl⟩

private theorem emitted_skip (n : ℕ) :
    ∀ b ∈ skipArrivals n, (Transmission.oneByteEach 0).Emits b := by
  intro b hb
  obtain ⟨k, -, rfl⟩ := mem_skipArrivals hb
  exact Transmission.oneByteEach_emits 0 k

/-- As long as superframe `n` did not come, it is missing. -/
private theorem leastMissing_skipped (n : ℕ) :
    LeastMissing (Transmission.oneByteEach 0) (countArrivals n ++ [nth (n + 1)]) n := by
  apply leastMissing_oneByte
  · exact fun b hb => emitted_skip n b (List.mem_append_left _ hb)
  · exact fun k hk => ⟨nth k, List.mem_append_left _ (mem_countArrivals.mpr ⟨k, hk, rfl⟩), rfl⟩
  · intro b hb
    rcases List.mem_append.mp hb with hb | hb
    · obtain ⟨k, hk, rfl⟩ := mem_countArrivals.mp hb
      exact Nat.ne_of_lt hk
    · obtain rfl := List.mem_singleton.mp hb
      exact Nat.succ_ne_self n

private theorem leastMissing_skip (n : ℕ) :
    LeastMissing (Transmission.oneByteEach 0) (skipArrivals n) (n + 2) := by
  apply leastMissing_oneByte (emitted_skip n)
  · intro k hk
    refine ⟨nth k, ?_, rfl⟩
    simp only [skipArrivals, List.mem_append, List.mem_singleton, mem_countArrivals]
    rcases (by omega : k < n ∨ k = n + 1 ∨ k = n) with hlt | rfl | rfl
    · exact Or.inl (Or.inl ⟨k, hlt, rfl⟩)
    · exact Or.inl (Or.inr rfl)
    · exact Or.inr rfl
  · intro b hb
    obtain ⟨k, hk, rfl⟩ := mem_skipArrivals hb
    exact Nat.ne_of_lt hk

private theorem nearby_skip {n : ℕ} (hn : 0 < n) :
    Nearby (Transmission.oneByteEach 0) n (countArrivals n) (nth (n + 1)) ∧
      Nearby (Transmission.oneByteEach 0) n (countArrivals n ++ [nth (n + 1)]) (nth n) := by
  constructor
  · apply nearby_nth _ (by omega) (by omega)
    intro hempty
    have hmem := mem_countArrivals.mpr ⟨0, hn, rfl⟩
    exact absurd (hempty ▸ hmem) List.not_mem_nil
  · exact nearby_nth (fun hempty => absurd hempty (by simp)) (by omega) (by omega)

private theorem window_skip {n : ℕ} (hn : 0 < n) :
    Window (Transmission.oneByteEach 0) (skipArrivals n) :=
  ((window_count n).concat (leastMissing_count n) (nearby_skip hn).1).concat
    (leastMissing_skipped n) (nearby_skip hn).2

/-- At the wrap, the last two superframes of `skipArrivals` are not delivered in order. -/
private theorem disordered_at_wrap {n : ℕ} (hn : n + 1 = 2 ^ 64) :
    ¬ EachCall (fun pre a => ExactlyInOrder (Transmission.oneByteEach 0) 100 50 (pre ++ [a]))
      (skipArrivals n) := by
  intro h
  obtain ⟨hbehind, hback⟩ := nearby_skip (n := n) (by omega)
  have hquiet : NoDeadline 100 50 (countArrivals n) := by
    apply noDeadline_nth
    intro b hb
    obtain ⟨k, -, rfl⟩ := mem_countArrivals.mp hb
    exact ⟨k, rfl⟩
  -- up to here nothing has gone wrong
  have hordered := (window_count n).ordered (B := 100) (H := 50) (by decide)
    (fun b hb => by
      obtain ⟨k, -, rfl⟩ := mem_countArrivals.mp hb
      rfl)
    (fun b hb => by
      obtain ⟨k, hk, rfl⟩ := mem_countArrivals.mp hb
      show k < 2 ^ 64
      omega) hquiet (leastMissing_count n)
  have hwindowed := hordered.windowed.call hbehind rfl
  obtain ⟨f, hpacket, -⟩ := (hwindowed.admits hback).fragment
  have hready := (hwindowed.unpacked hback hpacket rfl).ready
  -- then the last call would have to hand over both superframes
  have hbefore := (h.of_append.last n (leastMissing_skipped n)).1
  have hafter := (h.last (n + 2) (leastMissing_skip n)).1
  rw [handedOver_concat, List.map_append, hbefore, List.range_succ, List.range_succ,
    List.map_append, List.map_append, List.append_assoc, List.append_cancel_left_eq,
    (call_eq hpacket).2] at hafter
  exact hready.tracked.not_across_wrap hready.coherent hn _ hafter

/-- A fragment for which there is no memory. -/
def starvedArrival : Arrival (ℕ × ℕ) :=
  { oneByteArrival 0 0 with amb := { clockOpen := 0, clockPass := 0, allocates := false } }

/-- Behind the wrap of the 64-bit order, and without memory, delivery is not exact. -/
theorem not_delivered_in_order :
    (¬ ∀ (T : Transmission) (B H : UInt32) (as : List (Arrival (ℕ × ℕ))), H ≠ 0 → Window T as →
      (∀ a ∈ as, a.amb.allocates = true) → NoDeadline B H as →
        EachCall (fun pre a => ExactlyInOrder T B H (pre ++ [a])) as) ∧
    ¬ ∀ (T : Transmission) (B H : UInt32) (as : List (Arrival (ℕ × ℕ))), H ≠ 0 → Window T as →
      (∀ a ∈ as, a.superframe < 2 ^ 64) → NoDeadline B H as →
        EachCall (fun pre a => ExactlyInOrder T B H (pre ++ [a])) as := by
  constructor
  · intro h
    have hn : 18446744073709551615 + 1 = 2 ^ 64 := by norm_num
    generalize 18446744073709551615 = n at hn
    refine disordered_at_wrap hn (h _ 100 50 _ (by decide) (window_skip (by omega)) ?_ ?_)
    · intro b hb
      obtain ⟨k, -, rfl⟩ := mem_skipArrivals hb
      rfl
    · apply noDeadline_nth
      intro b hb
      obtain ⟨k, -, rfl⟩ := mem_skipArrivals hb
      exact ⟨k, rfl⟩
  · intro h
    have hnear : Nearby (Transmission.oneByteEach 0) 0 [] starvedArrival :=
      { emitted := Transmission.oneByteEach_emits 0 0
        start := fun _ => rfl
        behind := Nat.zero_le _
        ahead := by decide }
    have hwindow := window_nil.concat leastMissing_nil hnear
    have hone := leastMissing_oneByte (m := 1) hwindow.emitted (by decide) (by decide)
    have horder := (h _ 100 50 _ (by decide) hwindow (by decide)
      (noDeadline_of_short (t := 0) (by decide) (by decide))).last 1 hone
    have hnothing : handedOver 100 50 ([] ++ [starvedArrival]) = [] := by decide +kernel
    rw [hnothing] at horder
    exact absurd horder.1 (by decide)

end TwoRuns

end ElasticFrame
