import ElasticFrame.EndToEnd.Numbering
import ElasticFrame.Receiver.Accounting
import Mathlib.Data.List.Chain

/-!
# Through a Channel

A fresh sender, a receiver in run-to-completion mode, and between them a channel that loses,
repeats and reorders fragments. What arrives is a list of calls; each is labelled with the
superframe and the position of its fragment.

- `Tracked`: what is always true of the receiver of such a channel
- `Taken`: what one call can do to it
- `Channel`: how far a channel may reorder, and `Channel.admits`: under these bounds every fragment
  gets its superframe's own order

The three files on delivery (`Integrity`, `HeadOfLine`, `InOrder`) build on these.
-/

namespace ElasticFrame

open ElasticFrame.Lib

/-! ## §1 Runs of calls -/

/-- The superframe that was handed over: that of the first fragment accepted into its bucket. -/
def HandOver.superframe (h : HandOver (ℕ × ℕ)) : Option ℕ :=
  h.accepted.head?.map Arrival.superframe

/-- The statement holds of every call, after the calls before it. -/
def EachCall (P : List (Arrival (ℕ × ℕ)) → Arrival (ℕ × ℕ) → Prop)
    (as : List (Arrival (ℕ × ℕ))) : Prop :=
  ∀ pre a post, as = pre ++ a :: post → P pre a

section EachCall

variable {P : List (Arrival (ℕ × ℕ)) → Arrival (ℕ × ℕ) → Prop} {as bs : List (Arrival (ℕ × ℕ))}

theorem EachCall.nil : EachCall P [] := fun pre a post hsplit => absurd hsplit (by simp)

theorem EachCall.of_append (h : EachCall P (as ++ bs)) : EachCall P as := by
  intro pre a post hsplit
  apply h pre a (post ++ bs)
  rw [hsplit, List.append_assoc]
  rfl

theorem EachCall.last {a : Arrival (ℕ × ℕ)} (h : EachCall P (as ++ [a])) : P as a := h as a [] rfl

theorem EachCall.concat {a : Arrival (ℕ × ℕ)} (h : EachCall P as) (ha : P as a) :
    EachCall P (as ++ [a]) := by
  intro pre b post hsplit
  -- nothing follows the last call
  rcases List.eq_nil_or_concat' post with rfl | ⟨post, c, rfl⟩
  · obtain ⟨rfl, hb⟩ := List.append_inj' hsplit rfl
    obtain rfl := (List.cons.inj hb).1
    exact ha
  · rw [← List.cons_append, ← List.append_assoc] at hsplit
    obtain ⟨rfl, -⟩ := List.append_inj' hsplit rfl
    exact h pre b post rfl

theorem EachCall.two {a b : Arrival (ℕ × ℕ)} (ha : P [] a) (hb : P [a] b) : EachCall P [a, b] :=
  (EachCall.nil.concat ha).concat hb

theorem EachCall.three {a b c : Arrival (ℕ × ℕ)} (ha : P [] a) (hb : P [a] b) (hc : P [a, b] c) :
    EachCall P [a, b, c] :=
  (EachCall.two ha hb).concat hc

end EachCall

section Concat

variable {as : List (Arrival (ℕ × ℕ))} {a : Arrival (ℕ × ℕ)}

theorem forall_concat {P : Arrival (ℕ × ℕ) → Prop} :
    (∀ b ∈ as ++ [a], P b) ↔ (∀ b ∈ as, P b) ∧ P a := by
  rw [List.forall_mem_append, List.forall_mem_singleton]

theorem mem_concat_self : a ∈ as ++ [a] := List.mem_append_right _ (List.mem_singleton_self a)

end Concat

section Calls

variable (B H : UInt32) (as : List (Arrival (ℕ × ℕ))) (a : Arrival (ℕ × ℕ))

/-- A receiver in run-to-completion mode after these calls. -/
def afterCalls : Traced (ℕ × ℕ) :=
  (receiverMachine (ℕ × ℕ)).run (Traced.fresh (ℕ × ℕ) B H .RUN_TO_COMPLETION)
    (as.map .receiveFragment)

/-- What a call hands to the callback, after these calls. -/
def handedBy : List (HandOver (ℕ × ℕ)) :=
  ((afterCalls B H as).step (.receiveFragment a)).2.handed

/-- What these calls hand to the callback, in order. -/
def handedOver : List (HandOver (ℕ × ℕ)) :=
  ((receiverMachine (ℕ × ℕ)).outputs (Traced.fresh (ℕ × ℕ) B H .RUN_TO_COMPLETION)
    (as.map .receiveFragment)).flatMap Report.handed

/-- Before the first call no bucket is in use, none was opened and nothing was renumbered. -/
theorem afterCalls_nil (i : Slot) : ((afterCalls B H []).receiver.mBucketList i).mActive = false ∧
    (afterCalls B H []).owner i = none ∧ (afterCalls B H []).latest = none := ⟨rfl, rfl, rfl⟩

theorem afterCalls_concat :
    afterCalls B H (as ++ [a]) = ((afterCalls B H as).step (.receiveFragment a)).1 := by
  rw [afterCalls, List.map_append, List.map_singleton, Machine.run_concat]
  rfl

theorem handedOver_concat :
    handedOver B H (as ++ [a]) = handedOver B H as ++ handedBy B H as a := by
  rw [handedOver, List.map_append, List.map_singleton, Machine.outputs_concat, List.flatMap_append,
    List.flatMap_singleton]
  rfl

theorem afterCalls_coherent : (afterCalls B H as).receiver.Coherent := coherent_run B H _ _

theorem afterCalls_configured :
    (afterCalls B H as).receiver.Configured B H .RUN_TO_COMPLETION := configured_run B H _ _

/-- What a pass hands out in this state. -/
def Traced.passHands (s : Traced (ℕ × ℕ)) (lTimeNow : ℤ) : List (HandOver (ℕ × ℕ)) :=
  s.handOvers lTimeNow (s.receiver.collect (s.receiver.scan lTimeNow).selected)

/-- **A call unpacks its fragment and makes a pass.** -/
theorem call_eq {B H as a} {f : Fragment} (hpacket : Fragment.ofPacket a.pSubPacket = some f) :
    afterCalls B H (as ++ [a]) =
        ((afterCalls B H as).unpacked a f).concluded a.amb.clockPass ∧
      handedBy B H as a = ((afterCalls B H as).unpacked a f).passHands a.amb.clockPass := by
  have hcoherent := afterCalls_coherent B H as
  have hconfigured := afterCalls_configured B H as
  have hcall := Traced.step_of_fragment hconfigured.running hpacket
  have hmode := (hconfigured.unpack f a.lFromSource a.amb).currentMode
  have hpass : ((afterCalls B H as).unpacked a f).receiver.runIfToCompletion a.amb.clockPass =
      ((afterCalls B H as).unpacked a f).receiver.conclude
        (((afterCalls B H as).unpacked a f).receiver.scan a.amb.clockPass) := by
    rw [Receiver.runIfToCompletion]
    refine (if_pos hmode).trans ?_
    have hdistinct := (hcoherent.unpack f a.lFromSource a.amb).slotsDistinct
    exact Receiver.runToCompletionMethod_eq _ hdistinct _
  simp only [hpass] at hcall
  rw [afterCalls_concat]
  exact ⟨hcall.1, hcall.2.2⟩

end Calls

/-! ## §2 The slot of a superframe -/

/-- The slot of a superframe of a fresh sender: its index modulo 8192. -/
def ringSlot (k : ℕ) : Slot := ⟨k % (CIRCULAR_BUFFER_SIZE + 1), Nat.mod_lt _ (Nat.succ_pos _)⟩

theorem ringSlot_inj {k k' : ℕ} (h : ringSlot k = ringSlot k') : k % 8192 = k' % 8192 :=
  congrArg Fin.val h

theorem Transmission.slotOf_number {T : Transmission} (hfresh : T.lSuperFrameNo = 0) (k : ℕ) :
    slotOf (T.number k) = ringSlot k := by
  apply Fin.ext
  show (T.lSuperFrameNo + UInt16.ofNat k).toNat &&& (2 ^ 13 - 1) = k % 8192
  rw [hfresh, UInt16.zero_add, UInt16.toNat_ofNat', Nat.and_two_pow_sub_one_eq_mod]
  omega

/-! ## §3 What is always true -/

/-- The receiver of a channel that has brought these calls. -/
structure Tracked (T : Transmission) (as : List (Arrival (ℕ × ℕ))) (s : Traced (ℕ × ℕ)) : Prop where
  fresh : T.lSuperFrameNo = 0
  emitted : ∀ a ∈ as, T.Emits a
  numbered : Numbered T 0 s
  owned : ∀ i o, s.owner i = some o → o ∈ as
  /-- The owner of a bucket in use was the first to be accepted, and all others are of its
      superframe. -/
  held : ∀ i, (s.receiver.mBucketList i).mActive = true → ∃ o rest, s.owner i = some o ∧
    s.accepted i = o :: rest ∧ ∀ b ∈ rest, b ∈ as ∧ b.superframe = o.superframe

/-- A fresh receiver is tracked. -/
theorem tracked_fresh {T : Transmission} (hfresh : T.lSuperFrameNo = 0) (B H : UInt32) :
    Tracked T [] (afterCalls B H []) where
  fresh := hfresh
  emitted := fun a ha => absurd ha List.not_mem_nil
  numbered := numbered_fresh T 0 B H _
  owned := fun i o ho => absurd ho (by simp [(afterCalls_nil B H i).2.1])
  held := fun i hi => absurd hi (by simp [(afterCalls_nil B H i).1])

/-- The slot of the fragment is inactive or holds its superframe. -/
def Traced.FreeFor (s : Traced (ℕ × ℕ)) (a : Arrival (ℕ × ℕ)) : Prop :=
  (s.receiver.mBucketList (ringSlot a.superframe)).mActive = true →
    ∃ o, s.owner (ringSlot a.superframe) = some o ∧ o.superframe = a.superframe

/-- The receiver is ready for this call: its fragment is one of the transmission, gets its own order
    when its slot is free, and finds its own superframe there otherwise. -/
structure Admits (T : Transmission) (s : Traced (ℕ × ℕ)) (a : Arrival (ℕ × ℕ)) : Prop where
  emitted : T.Emits a
  rank : (s.receiver.mBucketList (ringSlot a.superframe)).mActive = false →
    s.receiver.candidate (T.number a.superframe) = orderOf a.superframe
  free : s.FreeFor a

/-- The slot of the fragment in a call that is admitted. -/
theorem Admits.slot {T : Transmission} {as : List (Arrival (ℕ × ℕ))} {s : Traced (ℕ × ℕ)}
    {a : Arrival (ℕ × ℕ)} {f : Fragment} (ha : Admits T s a) (htracked : Tracked T as s)
    (hpacket : Fragment.ofPacket a.pSubPacket = some f) : f.slot = ringSlot a.superframe := by
  rw [← Transmission.slotOf_number htracked.fresh, ← ha.emitted.number hpacket]
  rfl

/-- What a call can do to a receiver that is ready for it. -/
inductive Taken (s : Traced (ℕ × ℕ)) (a : Arrival (ℕ × ℕ)) (f : Fragment) :
    Traced (ℕ × ℕ) → Prop where
  | stale (hidle : (s.receiver.mBucketList (ringSlot a.superframe)).mActive = false)
      (hold : orderOf a.superframe =
        (s.receiver.mBucketList (ringSlot a.superframe)).mDeliveryOrder) :
      Taken s a f
        { s with receiver := s.receiver.renumbered f.hSuperFrameNo, latest := some a }
  | starved (hidle : (s.receiver.mBucketList (ringSlot a.superframe)).mActive = false)
      (hnew : orderOf a.superframe ≠
        (s.receiver.mBucketList (ringSlot a.superframe)).mDeliveryOrder)
      (halloc : a.amb.allocates = false) :
      Taken s a f
        { s with
          receiver := (s.receiver.entered f).dropBucket (ringSlot a.superframe)
            (s.receiver.openedBucket f a.lFromSource a.amb)
          owner := Function.update s.owner (ringSlot a.superframe) (some a)
          latest := some a }
  | opened (hidle : (s.receiver.mBucketList (ringSlot a.superframe)).mActive = false)
      (hnew : orderOf a.superframe ≠
        (s.receiver.mBucketList (ringSlot a.superframe)).mDeliveryOrder)
      (halloc : a.amb.allocates = true) :
      Taken s a f
        { receiver := (s.receiver.entered f).setBucket (ringSlot a.superframe)
            (s.receiver.openedWith f a.lFromSource a.amb)
          accepted := Function.update s.accepted (ringSlot a.superframe) [a]
          owner := Function.update s.owner (ringSlot a.superframe) (some a)
          latest := some a }
  | repeated (hactive : (s.receiver.mBucketList (ringSlot a.superframe)).mActive = true)
      (hdup : f.fragmentNo ∈
        (s.receiver.mBucketList (ringSlot a.superframe)).mHaveReceivedFragment) :
      Taken s a f s
  | added (hactive : (s.receiver.mBucketList (ringSlot a.superframe)).mActive = true)
      (hnew : f.fragmentNo ∉
        (s.receiver.mBucketList (ringSlot a.superframe)).mHaveReceivedFragment) :
      Taken s a f
        { s with
          receiver :=
            { s.receiver.setBucket (ringSlot a.superframe) (s.receiver.filledBucket f) with
              mStreams := f.noteStream s.receiver.mStreams }
          accepted := Function.update s.accepted (ringSlot a.superframe)
            (s.accepted (ringSlot a.superframe) ++ [a]) }

/-- What a call changes outside the slot of its fragment: nothing. -/
theorem Taken.other {s s' : Traced (ℕ × ℕ)} {a : Arrival (ℕ × ℕ)} {f : Fragment}
    (htaken : Taken s a f s') {i : Slot} (hi : i ≠ ringSlot a.superframe) :
    s'.receiver.mBucketList i = s.receiver.mBucketList i ∧ s'.owner i = s.owner i ∧
      s'.accepted i = s.accepted i := by
  cases htaken <;> simp [hi]

/-- An owner after a call is an owner from before, or the call. -/
theorem Taken.owner_cases {s s' : Traced (ℕ × ℕ)} {a : Arrival (ℕ × ℕ)} {f : Fragment}
    (htaken : Taken s a f s') {i : Slot} {o : Arrival (ℕ × ℕ)} (ho : s'.owner i = some o) :
    s.owner i = some o ∨ a = o := by
  rcases eq_or_ne i (ringSlot a.superframe) with rfl | hne
  · cases htaken with
    | stale => exact Or.inl ho
    | starved => exact Or.inr (by simpa using ho)
    | opened => exact Or.inr (by simpa using ho)
    | repeated => exact Or.inl ho
    | added => exact Or.inl ho
  · rw [(htaken.other hne).2.1] at ho
    exact Or.inl ho

namespace Tracked

variable {T : Transmission} {as : List (Arrival (ℕ × ℕ))} {s : Traced (ℕ × ℕ)}
  {a : Arrival (ℕ × ℕ)} {f : Fragment}

/-- What was accepted into a bucket in use is of its owner's superframe. -/
theorem accepted_mem (h : Tracked T as s) {i : Slot} {o : Arrival (ℕ × ℕ)}
    (hactive : (s.receiver.mBucketList i).mActive = true) (howner : s.owner i = some o)
    {b : Arrival (ℕ × ℕ)} (hb : b ∈ s.accepted i) : b ∈ as ∧ b.superframe = o.superframe := by
  obtain ⟨o', rest, howner', haccepted, hrest⟩ := h.held i hactive
  obtain rfl := Option.some.inj (howner.symm.trans howner')
  rw [haccepted] at hb
  rcases List.mem_cons.mp hb with rfl | hb
  · exact ⟨h.owned i _ howner, rfl⟩
  · exact hrest b hb

/-- Its fragments are fragments of the superframe. -/
theorem fragments_mem (h : Tracked T as s) {i : Slot} {o : Arrival (ℕ × ℕ)}
    (hactive : (s.receiver.mBucketList i).mActive = true) (howner : s.owner i = some o)
    {g : Fragment} (hg : g ∈ fragments (s.accepted i)) : g ∈ (T.parcel o.superframe).fragments := by
  obtain ⟨b, hb, hpacket⟩ := List.mem_filterMap.mp hg
  obtain ⟨hmem, hsame⟩ := h.accepted_mem hactive howner hb
  obtain ⟨g', hg', hpacket', -, -⟩ := (h.emitted b hmem).fragment
  obtain rfl := Option.some.inj (hpacket.symm.trans hpacket')
  rw [← hsame]
  exact List.mem_of_getElem? hg'

/-- A fragment that finds its bucket in use fits into it. -/
theorem fits (h : Tracked T as s) (hrecorded : s.InUse Recorded) (ha : Admits T s a)
    (hpacket : Fragment.ofPacket a.pSubPacket = some f)
    (hactive : (s.receiver.mBucketList f.slot).mActive = true) :
    f.hSuperFrameNo = (s.receiver.mBucketList f.slot).mSavedSuperFrameNo ∧
      f.fragmentNo ≤ (s.receiver.mBucketList f.slot).mOfFragmentNo ∧
      f.hOfFragmentNo = (s.receiver.mBucketList f.slot).mOfFragmentNo := by
  obtain ⟨f', hf', hpacket', hnumber, -⟩ := ha.emitted.fragment
  obtain rfl := Option.some.inj (hpacket'.symm.trans hpacket)
  have hmem := List.mem_of_getElem? hf'
  -- the bucket is in use for the superframe of the fragment
  have hfree := ha.free
  rw [Traced.FreeFor, ← ha.slot h hpacket] at hfree
  obtain ⟨o, howner, hsame⟩ := hfree hactive
  have hsaved := (h.numbered.opened _ o howner).2.2
  rw [hsame] at hsaved
  -- all fragments of a superframe announce one count
  have haccounted := (hrecorded f'.slot hactive).1
  obtain ⟨g, hg⟩ := List.exists_mem_of_ne_nil _ haccounted.ne_nil
  have hparcel := h.fragments_mem hactive howner hg
  rw [hsame] at hparcel
  have hof : (s.receiver.mBucketList f'.slot).mOfFragmentNo = (T.parcel a.superframe).last := by
    rw [← (haccounted.same g hg).2]
    exact ((T.parcel a.superframe).uniform hparcel).2.1
  rw [hof, hsaved]
  exact ⟨hnumber, ((T.parcel a.superframe).position_le hmem).1,
    ((T.parcel a.superframe).uniform hmem).2.1⟩

/-- **Nothing else happens.** -/
theorem taken (h : Tracked T as s) (hrecorded : s.InUse Recorded) (ha : Admits T s a)
    (hpacket : Fragment.ofPacket a.pSubPacket = some f) : Taken s a f (s.unpacked a f) := by
  obtain ⟨f', hf', hpacket', hnumber, hplaced⟩ := ha.emitted.fragment
  obtain rfl := Option.some.inj (hpacket'.symm.trans hpacket)
  have hslot := ha.slot h hpacket
  have hfits := h.fits hrecorded ha hpacket
  have hstep := s.unpacked_outcome a f'
  have hrank := ha.rank
  rw [← hslot, ← hnumber] at hrank
  generalize s.unpacked a f' = s' at hstep ⊢
  generalize (s.receiver.unpackFragment f' a.lFromSource a.amb).message = message at hstep
  cases hstep with
  | tooOld hidle hold =>
    rw [hslot] at hidle hold hrank
    exact .stale hidle ((hrank hidle).symm.trans hold)
  | refused _ hidle hnew hwhy _ =>
    -- a sender's fragment is not misplaced, so there was no memory
    rw [hrank hidle] at hnew
    rw [hslot] at hidle hnew ⊢
    refine .starved hidle hnew (hwhy.resolve_right ?_)
    rw [hplaced]
    exact Bool.false_ne_true
  | opened hidle hnew halloc _ =>
    rw [hrank hidle] at hnew
    rw [hslot] at hidle hnew ⊢
    exact .opened hidle hnew halloc
  | outOfResources hactive hother => exact absurd (hfits hactive).1 hother
  | outOfBounds hactive _ hbad =>
    rcases hbad with hbad | hbad
    · exact absurd (hfits hactive).2.1 (UInt16.not_le.mpr hbad)
    · exact absurd (hfits hactive).2.2 hbad
  | duplicate hactive _ hdup =>
    rw [hslot] at hactive hdup
    exact .repeated hactive hdup
  | added hactive _ _ _ hnew =>
    rw [hslot] at hactive hnew ⊢
    exact .added hactive hnew

/-- **Unpacking keeps track.** -/
theorem unpacked (h : Tracked T as s) (hrecorded : s.InUse Recorded) (ha : Admits T s a)
    (hpacket : Fragment.ofPacket a.pSubPacket = some f) :
    Tracked T (as ++ [a]) (s.unpacked a f) := by
  have htaken := h.taken hrecorded ha hpacket
  have hnumbered : Numbered T 0 (s.unpacked a f) := by
    apply h.numbered.unpacked (ha.emitted.number hpacket)
    rw [ha.slot h hpacket, zero_add]
    exact ha.rank
  have hheld : ∀ i, (s.receiver.mBucketList i).mActive = true → ∃ o rest, s.owner i = some o ∧
      s.accepted i = o :: rest ∧ ∀ b ∈ rest, b ∈ as ++ [a] ∧ b.superframe = o.superframe := by
    intro i hi
    obtain ⟨o, rest, howner, haccepted, hrest⟩ := h.held i hi
    exact ⟨o, rest, howner, haccepted, fun b hb =>
      ⟨List.mem_append_left _ (hrest b hb).1, (hrest b hb).2⟩⟩
  generalize s.unpacked a f = s' at htaken hnumbered ⊢
  refine ⟨h.fresh, forall_concat.mpr ⟨h.emitted, ha.emitted⟩, hnumbered, ?_, ?_⟩
  · intro i o ho
    rcases htaken.owner_cases ho with hbefore | rfl
    · exact List.mem_append_left _ (h.owned i o hbefore)
    · exact mem_concat_self
  · intro i hactive
    rcases eq_or_ne i (ringSlot a.superframe) with rfl | hne
    · cases htaken with
      | stale hidle _ => exact absurd hactive (by simp [Receiver.renumbered, hidle])
      | starved => exact absurd hactive (by simp [Receiver.dropBucket])
      | opened => exact ⟨a, [], by simp, by simp, by simp⟩
      | repeated => exact hheld _ hactive
      | added hactive' _ =>
        -- the slot is free for the fragment, so its owner is of the same superframe
        obtain ⟨o, rest, howner, haccepted, hrest⟩ := hheld _ hactive'
        obtain ⟨o', howner', hsame⟩ := ha.free hactive'
        obtain rfl := Option.some.inj (howner.symm.trans howner')
        refine ⟨o, rest ++ [a], howner, by simp [haccepted], ?_⟩
        intro b hb
        rcases List.mem_append.mp hb with hb | hb
        · exact hrest b hb
        · obtain rfl := List.mem_singleton.mp hb
          exact ⟨mem_concat_self, hsame.symm⟩
    · obtain ⟨hlist, howner, haccepted⟩ := htaken.other hne
      rw [hlist] at hactive
      rw [howner, haccepted]
      exact hheld i hactive

/-- A pass keeps track. -/
theorem concluded (h : Tracked T as s) (lTimeNow : ℤ) : Tracked T as (s.concluded lTimeNow) where
  fresh := h.fresh
  emitted := h.emitted
  numbered := h.numbered.concluded lTimeNow
  owned := h.owned
  held := by
    intro i hactive
    rw [(Traced.concluded_of_active hactive).2] at hactive
    exact h.held i hactive

/-! ## §4 What a pass hands out -/

/-- The owner of a slot belongs there. -/
theorem slot_eq (h : Tracked T as s) {i : Slot} {o : Arrival (ℕ × ℕ)}
    (howner : s.owner i = some o) : i = ringSlot o.superframe := by
  rw [← Transmission.slotOf_number h.fresh]
  exact (h.numbered.opened i o howner).1.symm

/-- A slot bears the order of its owner. -/
theorem order_eq (h : Tracked T as s) {i : Slot} {o : Arrival (ℕ × ℕ)}
    (howner : s.owner i = some o) :
    (s.receiver.mBucketList i).mDeliveryOrder = orderOf o.superframe := by
  rw [(h.numbered.opened i o howner).2.1, zero_add]

/-- An entry of the map: a bucket in use, under the order of its owner. -/
theorem entry (h : Tracked T as s) (hcoherent : s.receiver.Coherent) {e : UInt64 × Slot} :
    e ∈ s.receiver.mBucketMap.toList ↔ (s.receiver.mBucketList e.2).mActive = true ∧
      ∃ o, s.owner e.2 = some o ∧ e.1 = orderOf o.superframe := by
  rw [Receiver.mem_toList_iff]
  constructor
  · intro he
    obtain ⟨hactive, horder⟩ := hcoherent.entry he
    obtain ⟨o, _, howner, -⟩ := h.held e.2 hactive
    exact ⟨hactive, o, howner, horder.symm.trans (h.order_eq howner)⟩
  · rintro ⟨hactive, o, howner, horder⟩
    rw [horder, ← h.order_eq howner]
    exact (hcoherent.index _ _).mpr (Receiver.holds_of_active hactive)

/-- The key of an entry is the superframe of its owner. -/
theorem key (h : Tracked T as s) (hcoherent : s.receiver.Coherent)
    (hindex : ∀ b ∈ as, b.superframe < 2 ^ 64) {e : UInt64 × Slot}
    (he : e ∈ s.receiver.mBucketMap.toList) :
    ∃ o ∈ as, s.owner e.2 = some o ∧ (s.receiver.mBucketList e.2).mActive = true ∧
      e.1.toNat = o.superframe := by
  obtain ⟨hactive, o, howner, horder⟩ := (h.entry hcoherent).mp he
  have hmem := h.owned _ o howner
  have hlt := hindex o hmem
  have htoNat := orderOf_toNat (r := o.superframe) (by omega) (by omega)
  rw [← horder] at htoNat
  exact ⟨o, hmem, howner, hactive, by omega⟩

/-- The superframe that a bucket in use is handed over as is that of its owner. -/
theorem handed_superframe (h : Tracked T as s) {i : Slot}
    (hactive : (s.receiver.mBucketList i).mActive = true) :
    (s.accepted i).head?.map Arrival.superframe = (s.owner i).map Arrival.superframe := by
  obtain ⟨o, rest, howner, haccepted, -⟩ := h.held i hactive
  rw [howner, haccepted]
  rfl

/-- **A pass hands out the superframes of the selected buckets**, in the order of the selection. -/
theorem passHands_superframes (h : Tracked T as s) (hcoherent : s.receiver.Coherent)
    (lTimeNow : ℤ) :
    (s.passHands lTimeNow).map HandOver.superframe =
      (s.receiver.scan lTimeNow).selected.map fun e => (s.owner e.2).map Arrival.superframe := by
  have hactive : ∀ e ∈ (s.receiver.scan lTimeNow).selected,
      (s.receiver.mBucketList e.2).mActive = true := fun e he =>
    (hcoherent.entry (s.receiver.scan_entries lTimeNow he)).1
  unfold Traced.passHands
  generalize (s.receiver.scan lTimeNow).selected = es at hactive
  induction es with
  | nil => rfl
  | cons e rest ih =>
    -- a bucket in use owns a superframe, so every entry hands one out
    have hhere := hactive e List.mem_cons_self
    have hrest := ih fun e' he' => hactive e' (List.mem_cons_of_mem _ he')
    obtain ⟨d, hd⟩ := Option.isSome_iff_exists.mp (hcoherent.sound e.2 hhere).data
    have hcollect : s.receiver.collect (e :: rest) =
        { slot := e.2, frame := (s.receiver.mBucketList e.2).assemble d } ::
          s.receiver.collect rest := by
      simp [Receiver.collect, hd]
    rw [hcollect, Traced.handOvers, List.map_cons, List.map_cons, List.map_cons, ← Traced.handOvers,
      hrest]
    exact congrArg (· :: _) (h.handed_superframe hhere)

end Tracked

/-- A superframe that a pass hands out comes from a selected bucket. -/
theorem mem_passHands {s : Traced (ℕ × ℕ)} {lTimeNow : ℤ} {x : HandOver (ℕ × ℕ)} :
    x ∈ s.passHands lTimeNow ↔
      ∃ e ∈ (s.receiver.scan lTimeNow).selected, ∃ d,
        (s.receiver.mBucketList e.2).mBucketData = some d ∧
        x = { slot := e.2, frame := (s.receiver.mBucketList e.2).assemble d,
              accepted := s.accepted e.2, lTimeNow } := by
  simp only [Traced.passHands, Traced.handOvers, Receiver.collect, List.mem_map,
    List.mem_filterMap, Option.map_eq_some_iff]
  constructor
  · rintro ⟨_, ⟨e, he, d, hd, rfl⟩, rfl⟩
    exact ⟨e, he, d, hd, rfl⟩
  · rintro ⟨e, he, d, hd, rfl⟩
    exact ⟨_, ⟨e, he, d, hd, rfl⟩, rfl⟩

/-! ## §5 Pace -/

/-- No arrival is `D` or more ahead of the last one that was renumbered. -/
structure Paced (D : ℕ) (as : List (Arrival (ℕ × ℕ))) (s : Traced (ℕ × ℕ)) : Prop where
  start : s.latest = none → as = [] ∧ ∀ i, s.owner i = none
  ahead : ∀ c, s.latest = some c → c ∈ as ∧ ∀ b ∈ as, b.superframe < c.superframe + D

/-- A fresh receiver has renumbered nothing. -/
theorem paced_fresh (D : ℕ) (B H : UInt32) : Paced D [] (afterCalls B H []) where
  start := fun _ => ⟨rfl, fun _ => rfl⟩
  ahead := fun c hc => absurd hc (by simp [(afterCalls_nil B H 0).2.2])

section Pace

variable {T : Transmission} {as : List (Arrival (ℕ × ℕ))} {a : Arrival (ℕ × ℕ)}
  {s : Traced (ℕ × ℕ)} {D : ℕ}

/-- **A fragment that is close to the last one renumbered gets its superframe's own order.** -/
theorem Tracked.rank (h : Tracked T as s) (hpaced : Paced D as s)
    (hstart : as = [] → a.superframe < 2 ^ 16)
    (hnear : ∀ c, s.latest = some c → |(a.superframe : ℤ) - c.superframe| < 2 ^ 15) :
    s.receiver.candidate (T.number a.superframe) = orderOf a.superframe := by
  rw [← zero_add (a.superframe : ℤ)]
  apply h.numbered.candidate
  · rw [h.fresh]
    exact ⟨0, rfl⟩
  · intro hnone
    have hlt := hstart (hpaced.start hnone).1
    omega
  · exact hnear

/-- A call keeps the pace, when nothing arrived `D` or more ahead of its fragment. -/
theorem Paced.taken (h : Paced D as s) (htracked : Tracked T as s) (hfree : s.FreeFor a)
    (hlate : ∀ b ∈ as ++ [a], b.superframe < a.superframe + D) {f : Fragment}
    {s' : Traced (ℕ × ℕ)} (htaken : Taken s a f s') : Paced D (as ++ [a]) s' := by
  -- a call that is renumbered is the latest
  have hrenumbered : ∀ {t : Traced (ℕ × ℕ)}, t.latest = some a → Paced D (as ++ [a]) t := by
    intro t ht
    exact
      { start := fun hnone => absurd (ht.symm.trans hnone) (by simp)
        ahead := fun c hc => by
          obtain rfl := Option.some.inj (ht.symm.trans hc)
          exact ⟨mem_concat_self, hlate⟩ }
  -- one that finds its bucket in use is of a superframe that arrived before
  have hkept : ∀ {t : Traced (ℕ × ℕ)}, t.latest = s.latest →
      (s.receiver.mBucketList (ringSlot a.superframe)).mActive = true →
      Paced D (as ++ [a]) t := by
    intro t ht hactive
    obtain ⟨o, howner, hsame⟩ := hfree hactive
    exact
      { start := fun hnone => by
          rw [(h.start (ht.symm.trans hnone)).2] at howner
          exact absurd howner (by simp)
        ahead := fun c hc => by
          obtain ⟨hmem, hahead⟩ := h.ahead c (ht.symm.trans hc)
          refine ⟨List.mem_append_left _ hmem, forall_concat.mpr ⟨hahead, ?_⟩⟩
          rw [← hsame]
          exact hahead o (htracked.owned _ o howner) }
  cases htaken with
  | stale => exact hrenumbered rfl
  | starved => exact hrenumbered rfl
  | opened => exact hrenumbered rfl
  | repeated hactive _ => exact hkept rfl hactive
  | added hactive _ => exact hkept rfl hactive

end Pace

/-! ## §6 How far a channel reorders -/

/-- The bounds of a channel: consecutive arrivals are close, and nothing arrives long after its
    time. -/
structure Channel (T : Transmission) (as : List (Arrival (ℕ × ℕ))) : Prop where
  fresh : T.lSuperFrameNo = 0
  emitted : ∀ a ∈ as, T.Emits a
  start : ∀ a ∈ as.head?, a.superframe < 4096
  near : as.IsChain fun a b => |(a.superframe : ℤ) - b.superframe| < 4096
  late : as.Pairwise fun b a => b.superframe < a.superframe + 4096

/-- Whenever a fragment arrives, its slot is inactive or holds its superframe. -/
def FreeSlots (B H : UInt32) : List (Arrival (ℕ × ℕ)) → Prop :=
  EachCall fun pre a => (afterCalls B H pre).FreeFor a

/-- The clock does not go back. -/
def SteadyClock (as : List (Arrival (ℕ × ℕ))) : Prop :=
  (as.flatMap fun a => [a.amb.clockOpen, a.amb.clockPass]).Pairwise (· ≤ ·)

theorem Channel.of_append {T : Transmission} {as bs : List (Arrival (ℕ × ℕ))}
    (h : Channel T (as ++ bs)) : Channel T as where
  fresh := h.fresh
  emitted := fun a ha => h.emitted a (List.mem_append_left _ ha)
  start := fun a ha => h.start a (by
    rw [Option.mem_def] at ha ⊢
    rw [List.head?_append, ha]
    rfl)
  near := (List.isChain_append.mp h.near).1
  late := (List.pairwise_append.mp h.late).1

/-- Before the first arrival. -/
theorem Channel.nil {T : Transmission} (hfresh : T.lSuperFrameNo = 0) : Channel T [] where
  fresh := hfresh
  emitted := fun _ ha => absurd ha List.not_mem_nil
  start := fun _ ha => absurd ha (by simp)
  near := List.isChain_nil
  late := List.Pairwise.nil

/-- One more arrival. -/
theorem Channel.concat {T : Transmission} {as : List (Arrival (ℕ × ℕ))} {a : Arrival (ℕ × ℕ)}
    (h : Channel T as) (hemitted : T.Emits a) (hstart : as = [] → a.superframe < 4096)
    (hnear : ∀ b ∈ as.getLast?, |(b.superframe : ℤ) - a.superframe| < 4096)
    (hlate : ∀ b ∈ as, b.superframe < a.superframe + 4096) : Channel T (as ++ [a]) where
  fresh := h.fresh
  emitted := forall_concat.mpr ⟨h.emitted, hemitted⟩
  start := by
    cases as with
    | nil =>
      intro b hb
      obtain rfl := Option.some.inj hb
      exact hstart rfl
    | cons b as => exact h.start
  near := List.isChain_append.mpr ⟨h.near, .singleton a, fun b hb c hc => by
    obtain rfl := Option.some.inj hc
    exact hnear b hb⟩
  late := List.pairwise_append.mpr ⟨h.late, List.pairwise_singleton _ a, fun b hb c hc => by
    obtain rfl := List.mem_singleton.mp hc
    exact hlate b hb⟩

section Runs

variable {T : Transmission} {B H : UInt32} {as : List (Arrival (ℕ × ℕ))} {a : Arrival (ℕ × ℕ)}

/-- Nothing arrived long after its time. -/
theorem Channel.late_last (hchannel : Channel T (as ++ [a])) :
    ∀ b ∈ as, b.superframe < a.superframe + 4096 := fun b hb =>
  (List.pairwise_append.mp hchannel.late).2.2 b hb a (List.mem_singleton_self a)

/-- The receiver is ready for a call that keeps the bounds. -/
theorem Channel.admits_of (hchannel : Channel T (as ++ [a])) {s : Traced (ℕ × ℕ)}
    (hfree : s.FreeFor a) (htracked : Tracked T as s) (hpaced : Paced 4096 as s) :
    Admits T s a where
  emitted := hchannel.emitted a mem_concat_self
  rank := by
    intro _
    apply htracked.rank hpaced
    · rintro rfl
      have hstart := hchannel.start a rfl
      omega
    · intro c hc
      obtain ⟨hmem, hahead⟩ := hpaced.ahead c hc
      have hlate := hchannel.late_last c hmem
      -- the arrival before this one is close to it
      obtain ⟨b, hb⟩ := Option.isSome_iff_exists.mp
        (List.getLast?_isSome.mpr (List.ne_nil_of_mem hmem))
      have hnear := (List.isChain_append.mp hchannel.near).2.2 b hb a rfl
      have hb := hahead b (List.mem_of_getLast? hb)
      rw [abs_lt] at hnear ⊢
      omega
  free := hfree

/-- The fragment that an admitted call brings. -/
theorem Admits.fragment {s : Traced (ℕ × ℕ)} (ha : Admits T s a) :
    ∃ f, Fragment.ofPacket a.pSubPacket = some f ∧
      (T.parcel a.superframe).fragments[a.label.2]? = some f := by
  obtain ⟨f, hf, hpacket, -⟩ := ha.emitted.fragment
  exact ⟨f, hpacket, hf⟩

/-- **The receiver of a channel is tracked and paced.** -/
theorem Channel.tracked (hchannel : Channel T as) (hfree : FreeSlots B H as) :
    Tracked T as (afterCalls B H as) ∧ Paced 4096 as (afterCalls B H as) := by
  induction as using List.reverseRecOn with
  | nil => exact ⟨tracked_fresh hchannel.fresh B H, paced_fresh 4096 B H⟩
  | append_singleton as a ih =>
    obtain ⟨htracked, hpaced⟩ := ih hchannel.of_append hfree.of_append
    have ha := hchannel.admits_of hfree.last htracked hpaced
    obtain ⟨f, hpacket, -⟩ := ha.fragment
    have hrecorded := recorded_run B H .RUN_TO_COMPLETION (as.map Event.receiveFragment)
    have hlate : ∀ b ∈ as ++ [a], b.superframe < a.superframe + 4096 :=
      forall_concat.mpr ⟨hchannel.late_last, Nat.lt_add_of_pos_right (by decide)⟩
    have hkeeps := hpaced.taken htracked ha.free hlate (htracked.taken hrecorded ha hpacket)
    rw [(call_eq hpacket).1]
    exact ⟨(htracked.unpacked hrecorded ha hpacket).concluded _, hkeeps.start, hkeeps.ahead⟩

/-- **The receiver of a channel is ready for every call.** -/
theorem Channel.admits (hchannel : Channel T (as ++ [a])) (hfree : FreeSlots B H (as ++ [a])) :
    Admits T (afterCalls B H as) a :=
  have hbefore := hchannel.of_append.tracked hfree.of_append
  hchannel.admits_of hfree.last hbefore.1 hbefore.2

end Runs

end ElasticFrame
