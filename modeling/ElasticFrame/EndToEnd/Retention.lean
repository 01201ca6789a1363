import ElasticFrame.EndToEnd.Assembly
import ElasticFrame.EndToEnd.Channel

/-!
# What a Receiver Keeps

Where the fragments that arrived are: in the bucket of their superframe, or handed over. A slot
moves forward only, so a superframe that was handed over does not come back, and no fragment of the
superframe in a bucket is missing there.

- `Kept`: the invariant
- `Kept.unpacked`, `Kept.concluded`: a call keeps it, when its fragment is not late by a whole ring
- `Kept.complete_iff`: a bucket is complete when its whole superframe arrived
-/

namespace ElasticFrame

open ElasticFrame.Lib

/-- All fragments of a superframe are among these calls. -/
def Transmission.Received (T : Transmission) (as : List (Arrival (ℕ × ℕ))) (k : ℕ) : Prop :=
  ∀ j < (T.packets k).length, ∃ a ∈ as, a.label = (k, j)

/-- A superframe has a fragment, so one that was received arrived. -/
theorem Transmission.Received.arrived {T : Transmission} {as : List (Arrival (ℕ × ℕ))} {k : ℕ}
    (h : T.Received as k) : ∃ b ∈ as, b.superframe = k := by
  have hpos : 0 < (T.packets k).length := by
    rw [T.packets_length, Parcel.fragments_length]
    exact Nat.succ_pos _
  obtain ⟨b, hb, hlabel⟩ := h 0 hpos
  exact ⟨b, hb, by rw [Arrival.superframe, hlabel]⟩

/-- Every fragment of a superframe of one byte is all of it. -/
theorem Transmission.oneByteEach_received {as : List (Arrival (ℕ × ℕ))} {a : Arrival (ℕ × ℕ)}
    (ha : a ∈ as) (hemitted : (Transmission.oneByteEach 0).Emits a) :
    (Transmission.oneByteEach 0).Received as a.superframe := by
  have hpackets := Transmission.oneByteEach_packets 0 a.superframe
  have hposition : a.label.2 = 0 := by
    have hlt := (List.getElem?_eq_some_iff.mp hemitted).1
    rw [Transmission.oneByteEach_packets] at hlt
    exact Nat.lt_one_iff.mp hlt
  intro j hj
  rw [hpackets] at hj
  exact ⟨a, ha, Prod.ext rfl (hposition.trans (Nat.lt_one_iff.mp hj).symm)⟩

/-- The superframe was handed over. -/
def HandedOut (hs : List (HandOver (ℕ × ℕ))) (k : ℕ) : Prop := ∃ x ∈ hs, x.superframe = some k

/-- The bucket of the superframe is in use for it. -/
def Traced.Holds (s : Traced (ℕ × ℕ)) (k : ℕ) : Prop :=
  (s.receiver.mBucketList (ringSlot k)).mActive = true ∧
    ∃ o, s.owner (ringSlot k) = some o ∧ o.superframe = k

/-! ## §1 The invariant -/

/-- Where the fragments that arrived are. `N` bounds the superframes that are sure to be kept. -/
structure Kept (N : ℕ) (as : List (Arrival (ℕ × ℕ))) (s : Traced (ℕ × ℕ))
    (hs : List (HandOver (ℕ × ℕ))) : Prop where
  /-- The slot of a superframe was opened for it or for a later one, or bears its order. -/
  arrived : ∀ a ∈ as,
    (∃ o, s.owner (ringSlot a.superframe) = some o ∧ a.superframe ≤ o.superframe) ∨
      ((s.receiver.mBucketList (ringSlot a.superframe)).mActive = false ∧
        (s.receiver.mBucketList (ringSlot a.superframe)).mDeliveryOrder = orderOf a.superframe)
  /-- A bucket in use has all fragments of its superframe that arrived. -/
  collected : ∀ a ∈ as, s.Holds a.superframe → ∀ f, Fragment.ofPacket a.pSubPacket = some f →
    f ∈ fragments (s.accepted (ringSlot a.superframe))
  /-- The slot of a superframe that was handed over is not in use for it. -/
  released : ∀ k, HandedOut hs k →
    ∃ o, s.owner (ringSlot k) = some o ∧ k ≤ o.superframe ∧ ¬ s.Holds k
  /-- A superframe that arrived is in its bucket or was handed over. -/
  retained : ∀ a ∈ as, a.superframe < N → HandedOut hs a.superframe ∨ s.Holds a.superframe

theorem kept_fresh (N : ℕ) (s : Traced (ℕ × ℕ)) : Kept N [] s [] where
  arrived := fun a ha => absurd ha List.not_mem_nil
  collected := fun a ha => absurd ha List.not_mem_nil
  released := fun k hk => absurd hk (by simp [HandedOut])
  retained := fun a ha => absurd ha List.not_mem_nil

/-! ## §2 A call -/

section Call

variable {T : Transmission} {N : ℕ} {as : List (Arrival (ℕ × ℕ))} {s : Traced (ℕ × ℕ)}
  {hs : List (HandOver (ℕ × ℕ))} {a : Arrival (ℕ × ℕ)} {f : Fragment}

/-- Superframes of one slot are a whole ring apart. -/
private theorem ring_le {k k' : ℕ} (hslot : ringSlot k = ringSlot k') (hlate : k < k' + 8192) :
    k ≤ k' := by
  have hmod := ringSlot_inj hslot
  omega

/-- Before a slot is opened, no fragment of the superframe has arrived and the slot belonged to an
    earlier one. -/
theorem Kept.before_opening (h : Kept N as s hs) (htracked : Tracked T as s)
    (hlate : ∀ b ∈ as, b.superframe < a.superframe + 8192)
    (hnew : orderOf a.superframe ≠
      (s.receiver.mBucketList (ringSlot a.superframe)).mDeliveryOrder) :
    (∀ b ∈ as, b.superframe ≠ a.superframe) ∧
      ∀ o, s.owner (ringSlot a.superframe) = some o → o.superframe < a.superframe := by
  have howner : ∀ o, s.owner (ringSlot a.superframe) = some o → o.superframe < a.superframe := by
    intro o ho
    have hle := ring_le (htracked.slot_eq ho).symm (hlate o (htracked.owned _ o ho))
    have hne : o.superframe ≠ a.superframe := by
      intro heq
      rw [htracked.order_eq ho, heq] at hnew
      exact hnew rfl
    omega
  refine ⟨?_, howner⟩
  intro b hb heq
  -- a superframe that arrived left its slot with an order that is not earlier
  rcases h.arrived b hb with ⟨o, ho, hle⟩ | ⟨-, horder⟩
  · rw [heq] at ho hle
    have hlt := howner o ho
    omega
  · rw [heq] at horder
    exact hnew horder.symm

/-- A slot that bears the order of the superframe was opened for it. -/
theorem Kept.of_stale (h : Kept N as s hs) (htracked : Tracked T as s)
    (hlate : ∀ b ∈ as, b.superframe < a.superframe + 8192) (hN : N ≤ 2 ^ 64)
    (hfirst : a.superframe < N → s.owner (ringSlot a.superframe) = none →
      orderOf a.superframe ≠ UINT64_MAX)
    (hidle : (s.receiver.mBucketList (ringSlot a.superframe)).mActive = false)
    (hold : orderOf a.superframe =
      (s.receiver.mBucketList (ringSlot a.superframe)).mDeliveryOrder)
    (hlt : a.superframe < N) : HandedOut hs a.superframe := by
  cases howner : s.owner (ringSlot a.superframe) with
  | none =>
    rw [(htracked.numbered.unopened _ howner).2] at hold
    exact absurd hold (hfirst hlt howner)
  | some o =>
    -- the order in the slot is that of its owner, which is of this superframe then
    have hmem := htracked.owned _ o howner
    have hnear := hlate o hmem
    rw [htracked.order_eq howner] at hold
    have hrank := orderOf_inj (abs_lt.mpr ⟨by omega, by omega⟩) hold
    have hsame : o.superframe = a.superframe := by omega
    have hretained := h.retained o hmem (by omega)
    rw [hsame] at hretained
    exact hretained.resolve_right fun hholds => by
      rw [hholds.1] at hidle
      exact absurd hidle (by simp)

/-- A fragment that the bucket has was accepted into it. -/
theorem Admits.accepted_of_received (ha : Admits T s a) (htracked : Tracked T as s)
    (hrecorded : s.InUse Recorded) (hpacket : Fragment.ofPacket a.pSubPacket = some f)
    (hactive : (s.receiver.mBucketList (ringSlot a.superframe)).mActive = true)
    (hdup : f.fragmentNo ∈
      (s.receiver.mBucketList (ringSlot a.superframe)).mHaveReceivedFragment) :
    f ∈ fragments (s.accepted (ringSlot a.superframe)) := by
  obtain ⟨o, howner, hsame⟩ := ha.free hactive
  rw [(hrecorded _ hactive).1.received, List.mem_toFinset] at hdup
  obtain ⟨g, hmem, hposition⟩ := List.mem_map.mp hdup
  have hparcel := htracked.fragments_mem hactive howner hmem
  rw [hsame] at hparcel
  obtain ⟨f', hpacket', hf'⟩ := ha.fragment
  obtain rfl := Option.some.inj (hpacket'.symm.trans hpacket)
  rw [(T.parcel a.superframe).position_inj (List.mem_of_getElem? hf') hparcel hposition.symm]
  exact hmem

/-- Outside the slot of the fragment the two states agree. -/
private def AgreeOutside (i : Slot) (s s' : Traced (ℕ × ℕ)) : Prop :=
  ∀ j, j ≠ i → s'.receiver.mBucketList j = s.receiver.mBucketList j ∧ s'.owner j = s.owner j ∧
    s'.accepted j = s.accepted j

private theorem AgreeOutside.holds {i : Slot} {s s' : Traced (ℕ × ℕ)} (h : AgreeOutside i s s')
    {k : ℕ} (hk : ringSlot k ≠ i) : s'.Holds k ↔ s.Holds k := by
  obtain ⟨hlist, howner, -⟩ := h _ hk
  unfold Traced.Holds
  rw [hlist, howner]

/-- A slot is opened for a superframe that did not arrive before. -/
private theorem Kept.opened {s' : Traced (ℕ × ℕ)} (h : Kept N as s hs)
    (hsame : AgreeOutside (ringSlot a.superframe) s s')
    (howner : s'.owner (ringSlot a.superframe) = some a)
    (hactive : (s'.receiver.mBucketList (ringSlot a.superframe)).mActive = true)
    (haccepted : s'.accepted (ringSlot a.superframe) = [a])
    (hlate : ∀ b ∈ as, b.superframe < a.superframe + 8192)
    (hidle : (s.receiver.mBucketList (ringSlot a.superframe)).mActive = false)
    (hunseen : ∀ b ∈ as, b.superframe ≠ a.superframe)
    (hearlier : ∀ o, s.owner (ringSlot a.superframe) = some o → o.superframe < a.superframe) :
    Kept N (as ++ [a]) s' hs := by
  -- the slot is in use for this superframe and no other
  have hholds : ∀ k, ringSlot k = ringSlot a.superframe → (s'.Holds k ↔ k = a.superframe) := by
    intro k hk
    simp [Traced.Holds, hk, hactive, howner, eq_comm]
  have hbefore : ∀ k, ringSlot k = ringSlot a.superframe → ¬ s.Holds k := by
    rintro k hk ⟨hactive', -⟩
    rw [hk, hidle] at hactive'
    exact absurd hactive' Bool.false_ne_true
  refine
    { arrived := forall_concat.mpr ⟨?arrived, Or.inl ⟨a, howner, le_rfl⟩⟩
      collected := forall_concat.mpr ⟨?collected, ?collectedNow⟩
      released := ?released
      retained := forall_concat.mpr ⟨?retained, fun _ => Or.inr ((hholds _ rfl).mpr rfl)⟩ }
  case arrived =>
    intro b hb
    rcases eq_or_ne (ringSlot b.superframe) (ringSlot a.superframe) with heq | hne
    · rw [heq]
      exact Or.inl ⟨a, howner, ring_le heq (hlate b hb)⟩
    · obtain ⟨hlist, howner', -⟩ := hsame _ hne
      rw [hlist, howner']
      exact h.arrived b hb
  case collected =>
    intro b hb hholds' g hg
    rcases eq_or_ne (ringSlot b.superframe) (ringSlot a.superframe) with heq | hne
    · exact absurd ((hholds _ heq).mp hholds') (hunseen b hb)
    · rw [(hsame _ hne).2.2]
      exact h.collected b hb ((hsame.holds hne).mp hholds') g hg
  case collectedNow =>
    intro _ g hg
    rw [haccepted, fragments_singleton hg]
    exact List.mem_cons_self
  case released =>
    intro k hk
    obtain ⟨o, ho, hle, hnot⟩ := h.released k hk
    rcases eq_or_ne (ringSlot k) (ringSlot a.superframe) with heq | hne
    · rw [heq] at ho
      have hlt := hearlier o ho
      refine ⟨a, by rw [heq, howner], by omega, fun hheld => ?_⟩
      have := (hholds k heq).mp hheld
      omega
    · exact ⟨o, (hsame _ hne).2.1.trans ho, hle, fun hheld => hnot ((hsame.holds hne).mp hheld)⟩
  case retained =>
    -- no bucket is lost: the slot was not in use before
    intro b hb hlt
    rcases h.retained b hb hlt with hhanded | hheld
    · exact Or.inl hhanded
    · rcases eq_or_ne (ringSlot b.superframe) (ringSlot a.superframe) with heq | hne
      · exact absurd hheld (hbefore _ heq)
      · exact Or.inr ((hsame.holds hne).mpr hheld)

/-- A fragment is added to the bucket of its superframe. -/
private theorem Kept.added {s' : Traced (ℕ × ℕ)} (h : Kept N as s hs)
    (hsame : AgreeOutside (ringSlot a.superframe) s s') (howner : s'.owner = s.owner)
    (hactive : (s.receiver.mBucketList (ringSlot a.superframe)).mActive = true)
    (hactive' : (s'.receiver.mBucketList (ringSlot a.superframe)).mActive = true)
    (haccepted : s'.accepted (ringSlot a.superframe) =
      s.accepted (ringSlot a.superframe) ++ [a])
    (hpacket : Fragment.ofPacket a.pSubPacket = some f) (hheld : s.Holds a.superframe) :
    Kept N (as ++ [a]) s' hs := by
  have hholds : ∀ k, s'.Holds k ↔ s.Holds k := by
    intro k
    rcases eq_or_ne (ringSlot k) (ringSlot a.superframe) with heq | hne
    · unfold Traced.Holds
      rw [howner, heq, hactive, hactive']
    · exact hsame.holds hne
  obtain ⟨-, o, ho, hsuperframe⟩ := hheld
  refine
    { arrived := forall_concat.mpr ⟨?arrived, Or.inl ⟨o, by rw [howner, ho], hsuperframe.ge⟩⟩
      collected := forall_concat.mpr ⟨?collected, ?collectedNow⟩
      released := ?released
      retained := forall_concat.mpr
        ⟨?retained, fun _ => Or.inr ((hholds _).mpr ⟨hactive, o, ho, hsuperframe⟩)⟩ }
  case arrived =>
    intro b hb
    rcases h.arrived b hb with hopened | ⟨hidle, horder⟩
    · rw [howner]
      exact Or.inl hopened
    · rcases eq_or_ne (ringSlot b.superframe) (ringSlot a.superframe) with heq | hne
      · rw [heq, hactive] at hidle
        exact absurd hidle (by simp)
      · rw [(hsame _ hne).1]
        exact Or.inr ⟨hidle, horder⟩
  case collected =>
    intro b hb hheld g hg
    have hmem := h.collected b hb ((hholds _).mp hheld) g hg
    rcases eq_or_ne (ringSlot b.superframe) (ringSlot a.superframe) with heq | hne
    · rw [heq] at hmem ⊢
      rw [haccepted, fragments_concat hpacket]
      exact List.mem_append_left _ hmem
    · rw [(hsame _ hne).2.2]
      exact hmem
  case collectedNow =>
    intro _ g hg
    rw [haccepted, fragments_concat hg]
    exact List.mem_append_right _ List.mem_cons_self
  case released =>
    intro k hk
    obtain ⟨o, ho, hle, hnot⟩ := h.released k hk
    exact ⟨o, by rw [howner, ho], hle, fun hheld => hnot ((hholds k).mp hheld)⟩
  case retained =>
    intro b hb hlt
    exact (h.retained b hb hlt).imp_right (hholds _).mpr

/-- **Unpacking keeps the fragments.** -/
theorem Kept.unpacked (h : Kept N as s hs) (htracked : Tracked T as s)
    (hrecorded : s.InUse Recorded) (ha : Admits T s a)
    (hpacket : Fragment.ofPacket a.pSubPacket = some f) (halloc : a.amb.allocates = true)
    (hlate : ∀ b ∈ as, b.superframe < a.superframe + 8192) (hN : N ≤ 2 ^ 64)
    (hfirst : a.superframe < N → s.owner (ringSlot a.superframe) = none →
      orderOf a.superframe ≠ UINT64_MAX) :
    Kept N (as ++ [a]) (s.unpacked a f) hs := by
  have htaken := htracked.taken hrecorded ha hpacket
  have hslot := ha.slot htracked hpacket
  have hdup := ha.accepted_of_received htracked hrecorded hpacket
  have hsame : AgreeOutside (ringSlot a.superframe) s (s.unpacked a f) :=
    fun j hj => htaken.other hj
  generalize s.unpacked a f = s' at htaken hsame ⊢
  cases htaken with
  | starved _ _ hfails => exact absurd halloc (by simp [hfails])
  | stale hidle hold =>
    -- too old: the superframe was handed over before
    refine ⟨forall_concat.mpr ⟨h.arrived, Or.inr ⟨hidle, hold.symm⟩⟩,
      forall_concat.mpr ⟨h.collected, ?_⟩, h.released, forall_concat.mpr ⟨h.retained, fun hlt =>
        Or.inl (h.of_stale htracked hlate hN hfirst hidle hold hlt)⟩⟩
    rintro ⟨hactive, -⟩
    exact absurd (hidle.symm.trans hactive) Bool.false_ne_true
  | opened hidle hnew _ =>
    obtain ⟨hunseen, hearlier⟩ := h.before_opening htracked hlate hnew
    exact h.opened hsame (by simp) (by simp [Receiver.openedWith, Receiver.openedBucket,
      Bucket.copy]) (by simp) hlate hidle hunseen hearlier
  | repeated hactive hdup' =>
    -- the bucket has the fragment already
    obtain ⟨o, howner, hsuperframe⟩ := ha.free hactive
    refine ⟨forall_concat.mpr ⟨h.arrived, Or.inl ⟨o, howner, hsuperframe.ge⟩⟩,
      forall_concat.mpr ⟨h.collected, ?_⟩, h.released,
      forall_concat.mpr ⟨h.retained, fun _ => Or.inr ⟨hactive, o, howner, hsuperframe⟩⟩⟩
    intro _ g hg
    obtain rfl := Option.some.inj (hpacket.symm.trans hg)
    exact hdup hactive hdup'
  | added hactive hnew =>
    have hfilled : (s.receiver.filledBucket f).mActive = true := by
      rw [(s.receiver.filledBucket_common f).1, hslot]
      exact hactive
    exact h.added hsame rfl hactive (by simpa using hfilled) (by simp) hpacket
      ⟨hactive, ha.free hactive⟩

/-! ## §3 A pass -/

/-- A superframe is handed over by a pass that selects its bucket. -/
theorem Tracked.handedOut_iff (h : Tracked T as s) (hcoherent : s.receiver.Coherent) {lTimeNow : ℤ}
    {k : ℕ} : HandedOut (s.passHands lTimeNow) k ↔
      s.Holds k ∧ ringSlot k ∈ (s.receiver.scan lTimeNow).selected.map Prod.snd := by
  have hactive : ∀ e ∈ (s.receiver.scan lTimeNow).selected,
      (s.receiver.mBucketList e.2).mActive = true := fun e he =>
    (hcoherent.entry (s.receiver.scan_entries lTimeNow he)).1
  constructor
  · rintro ⟨x, hx, hk⟩
    obtain ⟨e, he, d, -, rfl⟩ := mem_passHands.mp hx
    have hk : (s.accepted e.2).head?.map Arrival.superframe = some k := hk
    rw [h.handed_superframe (hactive e he)] at hk
    obtain ⟨o, howner, rfl⟩ := Option.map_eq_some_iff.mp hk
    have hslot := h.slot_eq howner
    have hactive := hactive e he
    rw [hslot] at howner hactive
    exact ⟨⟨hactive, o, howner, rfl⟩, List.mem_map.mpr ⟨e, he, hslot⟩⟩
  · rintro ⟨⟨-, o, howner, rfl⟩, hmem⟩
    obtain ⟨e, he, hslot⟩ := List.mem_map.mp hmem
    obtain ⟨d, hd⟩ := Option.isSome_iff_exists.mp (hcoherent.sound e.2 (hactive e he)).data
    refine ⟨_, mem_passHands.mpr ⟨e, he, d, hd, rfl⟩, ?_⟩
    rw [← hslot] at howner
    show (s.accepted e.2).head?.map Arrival.superframe = _
    rw [h.handed_superframe (hactive e he), howner]
    rfl

/-- The buckets that a pass leaves in use. -/
theorem Traced.holds_concluded {lTimeNow : ℤ} {k : ℕ} :
    (s.concluded lTimeNow).Holds k ↔
      s.Holds k ∧ ringSlot k ∉ (s.receiver.scan lTimeNow).selected.map Prod.snd := by
  constructor
  · rintro ⟨hactive, howned⟩
    obtain ⟨hleft, hsame⟩ := Traced.concluded_of_active hactive
    rw [hsame] at hactive
    exact ⟨⟨hactive, howned⟩, hleft⟩
  · rintro ⟨⟨hactive, howned⟩, hleft⟩
    refine ⟨?_, howned⟩
    simp only [Traced.concluded, Traced.delivered, Receiver.conclude, Receiver.release,
      if_neg hleft]
    exact hactive

theorem HandedOut.append {hs hs' : List (HandOver (ℕ × ℕ))} {k : ℕ} :
    HandedOut (hs ++ hs') k ↔ HandedOut hs k ∨ HandedOut hs' k := by
  simp only [HandedOut, List.mem_append, or_and_right, exists_or]

/-- **A pass keeps the fragments**, in the buckets or with what it hands out. -/
theorem Kept.concluded (h : Kept N as s hs) (htracked : Tracked T as s)
    (hcoherent : s.receiver.Coherent) (lTimeNow : ℤ) :
    Kept N as (s.concluded lTimeNow) (hs ++ s.passHands lTimeNow) where
  arrived := by
    intro b hb
    obtain ⟨horder, -, hidle⟩ := s.concluded_kept lTimeNow (ringSlot b.superframe)
    rw [horder]
    exact (h.arrived b hb).imp_right fun hbefore => ⟨hidle hbefore.1, hbefore.2⟩
  collected := fun b hb hheld => h.collected b hb (Traced.holds_concluded.mp hheld).1
  released := by
    intro k hk
    rcases HandedOut.append.mp hk with hk | hk
    · obtain ⟨o, howner, hle, hnot⟩ := h.released k hk
      exact ⟨o, howner, hle, fun hheld => hnot (Traced.holds_concluded.mp hheld).1⟩
    · obtain ⟨⟨-, o, howner, hsame⟩, hselected⟩ := (htracked.handedOut_iff hcoherent).mp hk
      exact ⟨o, howner, hsame.ge, fun hheld => (Traced.holds_concluded.mp hheld).2 hselected⟩
  retained := by
    intro b hb hlt
    rw [HandedOut.append, htracked.handedOut_iff hcoherent, Traced.holds_concluded]
    rcases h.retained b hb hlt with hhanded | hheld
    · exact Or.inl (Or.inl hhanded)
    · -- a bucket in use is handed over or stays in use
      by_cases hselected : ringSlot b.superframe ∈
        (s.receiver.scan lTimeNow).selected.map Prod.snd
      · exact Or.inl (Or.inr ⟨hheld, hselected⟩)
      · exact Or.inr ⟨hheld, hselected⟩

/-- **No superframe is handed over twice.** -/
theorem Kept.once (h : Kept N as s hs) (htracked : Tracked T as s)
    (hcoherent : s.receiver.Coherent) (lTimeNow : ℤ)
    (honce : (hs.map HandOver.superframe).Nodup) (hknown : ∀ x ∈ hs, ∃ k, x.superframe = some k) :
    ((hs ++ s.passHands lTimeNow).map HandOver.superframe).Nodup ∧
      ∀ x ∈ hs ++ s.passHands lTimeNow, ∃ k, x.superframe = some k := by
  have hactive : ∀ e ∈ (s.receiver.scan lTimeNow).selected,
      (s.receiver.mBucketList e.2).mActive = true := fun e he =>
    (hcoherent.entry (s.receiver.scan_entries lTimeNow he)).1
  have howners := htracked.passHands_superframes hcoherent lTimeNow
  have hnew : ∀ x ∈ s.passHands lTimeNow, ∃ k, x.superframe = some k := by
    intro x hx
    have hmem := List.mem_map_of_mem (f := HandOver.superframe) hx
    rw [howners] at hmem
    obtain ⟨e, he, hsame⟩ := List.mem_map.mp hmem
    obtain ⟨o, _, howner, -⟩ := htracked.held e.2 (hactive e he)
    exact ⟨o.superframe, by rw [← hsame, howner]; rfl⟩
  refine ⟨?_, fun x hx => (List.mem_append.mp hx).elim (hknown x) (hnew x)⟩
  rw [List.map_append, List.nodup_append]
  refine ⟨honce, ?_, ?_⟩
  · -- the selected buckets are all different, and a superframe determines its bucket
    have hslots : ((s.receiver.scan lTimeNow).selected.map Prod.snd).Nodup :=
      hcoherent.slotsDistinct.sublist ((s.receiver.scan_sublist lTimeNow).map _)
    have hback : (s.receiver.scan lTimeNow).selected.map Prod.snd =
        ((s.passHands lTimeNow).map HandOver.superframe).map fun k => ringSlot (k.getD 0) := by
      rw [howners, List.map_map]
      apply List.map_congr_left
      intro e he
      obtain ⟨o, _, howner, -⟩ := htracked.held e.2 (hactive e he)
      show e.2 = ringSlot (((s.owner e.2).map Arrival.superframe).getD 0)
      rw [howner]
      exact htracked.slot_eq howner
    rw [hback] at hslots
    exact hslots.of_map
  · -- what was handed over before is not in use
    intro k hk k' hk' heq
    obtain ⟨x, hx, rfl⟩ := List.mem_map.mp hk
    obtain ⟨k, hsuperframe⟩ := hknown x hx
    obtain ⟨x', hx', rfl⟩ := List.mem_map.mp hk'
    obtain ⟨-, -, -, hnot⟩ := h.released k ⟨x, hx, hsuperframe⟩
    exact hnot ((htracked.handedOut_iff hcoherent).mp ⟨x', hx', heq ▸ hsuperframe⟩).1

/-! ## §4 Complete buckets -/

/-- **A bucket is complete when its whole superframe arrived.** -/
theorem Kept.complete_iff (h : Kept N as s hs) (htracked : Tracked T as s)
    (hrecorded : s.InUse Recorded) {k : ℕ} (hheld : s.Holds k) :
    (s.receiver.mBucketList (ringSlot k)).complete = true ↔ T.Received as k := by
  obtain ⟨hactive, o, howner, rfl⟩ := id hheld
  have hall := fun g hg => htracked.fragments_mem hactive howner (g := g) hg
  rw [(hrecorded _ hactive).1.complete_iff_all hall]
  have hlength := T.packets_length o.superframe
  constructor
  · intro hevery j hj
    rw [hlength] at hj
    have hget := List.getElem?_eq_getElem hj
    -- the call whose fragment was accepted for this position
    obtain ⟨b, hb, hpacket⟩ := List.mem_filterMap.mp (hevery _ (List.getElem_mem hj))
    obtain ⟨hmem, hsame⟩ := htracked.accepted_mem hactive howner hb
    obtain ⟨g, hg, hpacket', -⟩ := (htracked.emitted b hmem).fragment
    obtain rfl := Option.some.inj (hpacket.symm.trans hpacket')
    rw [hsame] at hg
    have hposition : b.label.2 = j := by
      rw [← (T.parcel o.superframe).fragment_position hg,
        (T.parcel o.superframe).fragment_position hget]
    exact ⟨b, hmem, Prod.ext hsame hposition⟩
  · intro hreceived f hf
    obtain ⟨j, hj⟩ := List.mem_iff_getElem?.mp hf
    have hlt : j < (T.packets o.superframe).length := by
      rw [hlength]
      exact (List.getElem?_eq_some_iff.mp hj).1
    -- a call with this fragment arrived, so the bucket collected it
    obtain ⟨b, hb, hlabel⟩ := hreceived j hlt
    have hsame : b.superframe = o.superframe := by rw [Arrival.superframe, hlabel]
    obtain ⟨g, hg, hpacket, -⟩ := (htracked.emitted b hb).fragment
    rw [hsame, hlabel] at hg
    obtain rfl := Option.some.inj (hj.symm.trans hg)
    rw [← hsame]
    exact h.collected b hb (by rw [hsame]; exact hheld) f hpacket

end Call

/-! ## §5 The state of a pass -/

/-- A receiver that has unpacked these calls and handed these superframes over. -/
structure Ready (T : Transmission) (N : ℕ) (as : List (Arrival (ℕ × ℕ))) (s : Traced (ℕ × ℕ))
    (hs : List (HandOver (ℕ × ℕ))) : Prop where
  tracked : Tracked T as s
  kept : Kept N as s hs
  coherent : s.receiver.Coherent
  assembling : ∀ P, s.InUse (Assembling P)
  once : (hs.map HandOver.superframe).Nodup
  known : ∀ x ∈ hs, ∃ k, x.superframe = some k
  content : ∀ x ∈ hs, ∀ k, x.superframe = some k → x.frame.mBroken = false →
    (T.calls k).DeliveredAs x.frame

namespace Ready

variable {T : Transmission} {N : ℕ} {as : List (Arrival (ℕ × ℕ))} {s : Traced (ℕ × ℕ)}
  {hs : List (HandOver (ℕ × ℕ))} {a : Arrival (ℕ × ℕ)} {f : Fragment}

/-- A fresh receiver. -/
theorem fresh (hfresh : T.lSuperFrameNo = 0) (N : ℕ) (B H : UInt32) :
    Ready T N [] (afterCalls B H []) (handedOver B H []) where
  tracked := tracked_fresh hfresh B H
  kept := kept_fresh N _
  coherent := afterCalls_coherent B H []
  assembling := fun P => assembling_run P B H _ _
  once := List.nodup_nil
  known := fun _ hx => absurd hx List.not_mem_nil
  content := fun _ hx => absurd hx List.not_mem_nil

theorem recorded (h : Ready T N as s hs) : s.InUse Recorded :=
  fun i hactive => (h.assembling (T.parcel 0) i hactive).1

/-- A call unpacks its fragment. -/
theorem unpacked (h : Ready T N as s hs) (ha : Admits T s a)
    (hpacket : Fragment.ofPacket a.pSubPacket = some f) (halloc : a.amb.allocates = true)
    (hlate : ∀ b ∈ as, b.superframe < a.superframe + 8192) (hN : N ≤ 2 ^ 64)
    (hfirst : a.superframe < N → s.owner (ringSlot a.superframe) = none →
      orderOf a.superframe ≠ UINT64_MAX) :
    Ready T N (as ++ [a]) (s.unpacked a f) hs where
  tracked := h.tracked.unpacked h.recorded ha hpacket
  kept := h.kept.unpacked h.tracked h.recorded ha hpacket halloc hlate hN hfirst
  coherent := h.coherent.unpack f a.lFromSource a.amb
  assembling := fun P => assembling_unpacked (h.assembling P) hpacket
  once := h.once
  known := h.known
  content := h.content

/-- **What a pass hands over is unbroken when the whole superframe arrived, and then it has the
    content that was sent.** -/
theorem handed (h : Ready T N as s hs) {lTimeNow : ℤ} {x : HandOver (ℕ × ℕ)}
    (hx : x ∈ s.passHands lTimeNow) {k : ℕ} (hk : x.superframe = some k) :
    (x.frame.mBroken = false ↔ T.Received as k) ∧
      (x.frame.mBroken = false → (T.calls k).DeliveredAs x.frame) := by
  obtain ⟨e, he, d, hd, rfl⟩ := mem_passHands.mp hx
  have hactive := (h.coherent.entry (s.receiver.scan_entries lTimeNow he)).1
  have hk : (s.accepted e.2).head?.map Arrival.superframe = some k := hk
  rw [h.tracked.handed_superframe hactive] at hk
  obtain ⟨o, howner, rfl⟩ := Option.map_eq_some_iff.mp hk
  have hslot := h.tracked.slot_eq howner
  have hwhole : ((s.receiver.mBucketList e.2).assemble d).mBroken = false ↔
      (s.receiver.mBucketList e.2).complete = true := by
    simp [Bucket.assemble, Bucket.complete]
  constructor
  · refine hwhole.trans ?_
    rw [hslot] at howner hactive ⊢
    exact h.kept.complete_iff h.tracked h.recorded ⟨hactive, o, howner, rfl⟩
  · intro hbroken
    exact (h.assembling (T.parcel o.superframe) e.2 hactive).delivers
      (fun g hg => h.tracked.fragments_mem hactive howner hg) (hwhole.mp hbroken) hd

/-- A pass hands superframes over. -/
theorem concluded (h : Ready T N as s hs) (lTimeNow : ℤ) :
    Ready T N as (s.concluded lTimeNow) (hs ++ s.passHands lTimeNow) where
  tracked := h.tracked.concluded lTimeNow
  kept := h.kept.concluded h.tracked h.coherent lTimeNow
  coherent := h.coherent.conclude lTimeNow
  assembling := fun P => (h.assembling P).concluded lTimeNow
  once := (h.kept.once h.tracked h.coherent lTimeNow h.once h.known).1
  known := (h.kept.once h.tracked h.coherent lTimeNow h.once h.known).2
  content := fun x hx k hk => (List.mem_append.mp hx).elim (fun hx => h.content x hx k hk)
    fun hx => (h.handed hx hk).2

end Ready

end ElasticFrame
