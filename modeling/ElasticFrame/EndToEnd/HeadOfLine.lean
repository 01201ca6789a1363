import ElasticFrame.EndToEnd.Channel

/-!
# The Head of the Line

In head-of-line mode superframes are meant to be handed over in their order, with gaps where one
was lost. The head is `mNextExpectedFrameNumber`; it jumps over a superframe that does not come. A
fragment that comes after the jump still opens a bucket below the head, and the timeout of that
bucket pulls the head back.

- `headOfLine_forward`: nothing goes backwards as long as no bucket is opened below the head
- `not_headOfLine_forward_late`: a run in which one is
-/

namespace ElasticFrame

open ElasticFrame.Lib

/-! ## §1 What is claimed -/

/-- The superframes are handed over in ascending order, and the head does not move back. -/
structure Forward (B H : UInt32) (as : List (Arrival (ℕ × ℕ))) : Prop where
  increasing : ∃ ks : List ℕ, (handedOver B H as).map HandOver.superframe = ks.map some ∧
    ks.Pairwise (· < ·)
  head : EachCall (fun pre a => (afterCalls B H pre).receiver.mNextExpectedFrameNumber ≤
    (afterCalls B H (pre ++ [a])).receiver.mNextExpectedFrameNumber) as

/-- Once the head is set, the call opens no bucket for a superframe below the head: its slot is in
    use, or bears its order, or there is no memory, or the superframe is not below the head. -/
def Traced.OpensAhead (s : Traced (ℕ × ℕ)) (a : Arrival (ℕ × ℕ)) : Prop :=
  s.receiver.mDeliveryHOLFirstRun = false →
    (s.receiver.mBucketList (ringSlot a.superframe)).mActive = false →
    orderOf a.superframe ≠ (s.receiver.mBucketList (ringSlot a.superframe)).mDeliveryOrder →
    a.amb.allocates = true → s.receiver.mNextExpectedFrameNumber.toNat ≤ a.superframe

/-! ## §2 The invariant -/

/-- The head has passed what was handed over, and is in front of the buckets in use. -/
structure HeadKept (s : Traced (ℕ × ℕ)) (ks : List ℕ) : Prop where
  first : s.receiver.mDeliveryHOLFirstRun = true →
    ks = [] ∧ s.receiver.mNextExpectedFrameNumber = 0
  below : ∀ k ∈ ks, k < s.receiver.mNextExpectedFrameNumber.toNat
  above : ∀ i o, (s.receiver.mBucketList i).mActive = true → s.owner i = some o →
    s.receiver.mNextExpectedFrameNumber.toNat ≤ o.superframe
  increasing : ks.Pairwise (· < ·)

namespace HeadKept

variable {T : Transmission} {as : List (Arrival (ℕ × ℕ))} {s : Traced (ℕ × ℕ)} {ks : List ℕ}
  {a : Arrival (ℕ × ℕ)} {f : Fragment}

/-- **Unpacking leaves the head alone**, and opens buckets in front of it only. -/
theorem unpacked (h : HeadKept s ks) (hahead : s.OpensAhead a)
    (htaken : Taken s a f (s.unpacked a f)) : HeadKept (s.unpacked a f) ks := by
  have hsame := s.receiver.unpackFragment_sameDelivery f a.lFromSource a.amb
  have hfirst : (s.unpacked a f).receiver.mDeliveryHOLFirstRun = s.receiver.mDeliveryHOLFirstRun :=
    hsame.holFirstRun
  have hhead : (s.unpacked a f).receiver.mNextExpectedFrameNumber =
      s.receiver.mNextExpectedFrameNumber := hsame.nextExpected
  refine ⟨by rw [hfirst, hhead]; exact h.first, by rw [hhead]; exact h.below, ?_, h.increasing⟩
  rw [hhead]
  intro i o hactive howner
  generalize s.unpacked a f = s' at htaken hactive howner
  rcases eq_or_ne i (ringSlot a.superframe) with rfl | hne
  · cases htaken with
    | stale hidle _ => exact absurd (hidle.symm.trans hactive) Bool.false_ne_true
    | starved => exact absurd hactive (by simp)
    | opened hidle hnew halloc =>
      obtain rfl : a = o := by simpa using howner
      cases hrun : s.receiver.mDeliveryHOLFirstRun with
      | true =>
        -- before the first run the head is zero
        rw [(h.first hrun).2]
        exact Nat.zero_le _
      | false => exact hahead hrun hidle hnew halloc
    | repeated => exact h.above _ o hactive howner
    | added hactive' _ => exact h.above _ o hactive' howner
  · obtain ⟨hlist, howner', -⟩ := htaken.other hne
    rw [hlist] at hactive
    rw [howner'] at howner
    exact h.above i o hactive howner

/-- **A pass moves the head forward**, past what it hands over. -/
theorem concluded (h : HeadKept s ks) (htracked : Tracked T as s)
    (hcoherent : s.receiver.Coherent) (hhol : s.receiver.mHeadOfLineBlockingTimeoutms ≠ 0)
    (hindex : ∀ b ∈ as, b.superframe < 2 ^ 64 - 1) (lTimeNow : ℤ) :
    ∃ ks', (s.passHands lTimeNow).map HandOver.superframe = ks'.map some ∧
      HeadKept (s.concluded lTimeNow) (ks ++ ks') ∧
      s.receiver.mNextExpectedFrameNumber ≤
        (s.concluded lTimeNow).receiver.mNextExpectedFrameNumber := by
  have hentry := fun e => htracked.entry hcoherent (e := e)
  have hkey : ∀ e ∈ s.receiver.mBucketMap.toList, ∃ o ∈ as, s.owner e.2 = some o ∧
      (s.receiver.mBucketList e.2).mActive = true ∧ e.1.toNat = o.superframe := fun e he =>
    htracked.key hcoherent (fun b hb => Nat.lt_of_lt_of_le (hindex b hb) (Nat.sub_le _ _)) he
  -- an entry is not below the head
  have hfrom : ∀ e ∈ s.receiver.mBucketMap.toList,
      s.receiver.mNextExpectedFrameNumber.toNat ≤ e.1.toNat := by
    intro e he
    obtain ⟨o, -, howner, hactive, hsame⟩ := hkey e he
    rw [hsame]
    exact h.above e.2 o hactive howner
  -- keys are in front of the old head, so the scan moves the head forward
  have hforward := Receiver.scan_forward lTimeNow hhol
    (fun e he => (hcoherent.entry ((Receiver.mem_toList_iff _ e).mp he)).2)
    (fun e he hmax => by
      obtain ⟨o, hmem, -, -, hsame⟩ := hkey e he
      rw [hmax] at hsame
      have hlt := hindex o hmem
      have hmax : UINT64_MAX.toNat = 2 ^ 64 - 1 := rfl
      omega)
    hfrom
  obtain ⟨hle, hpassed, hleft, hfirst⟩ := hforward
  have hsub := s.receiver.scan_sublist lTimeNow
  have hselected := (Receiver.toList_sorted s.receiver.mBucketMap).sublist hsub
  refine ⟨(s.receiver.scan lTimeNow).selected.map fun e => e.1.toNat, ?_, ?_,
    UInt64.le_iff_toNat_le.mpr hle⟩
  · rw [htracked.passHands_superframes hcoherent, List.map_map]
    apply List.map_congr_left
    intro e he
    obtain ⟨o, -, howner, -, hsame⟩ := hkey e (hsub.subset he)
    rw [howner]
    exact congrArg some hsame.symm
  · have hhead : (s.concluded lTimeNow).receiver.mNextExpectedFrameNumber =
        (s.receiver.scan lTimeNow).mNextExpectedFrameNumber := rfl
    refine ⟨fun hrun => ?_, ?_, ?_, ?_⟩
    · obtain ⟨hrun, hnone, hsame⟩ := hfirst hrun
      rw [hnone, hhead, hsame, List.map_nil, List.append_nil]
      exact h.first hrun
    · rw [hhead]
      intro k hk
      rcases List.mem_append.mp hk with hk | hk
      · have hlt := h.below k hk
        omega
      · obtain ⟨e, he, rfl⟩ := List.mem_map.mp hk
        exact hpassed e he
    · -- a bucket still in use was not selected, so the head is not past it
      rw [hhead]
      intro i o hactive howner
      obtain ⟨hnot, hsame⟩ := Traced.concluded_of_active hactive
      rw [hsame] at hactive
      have he := (hentry (orderOf o.superframe, i)).mpr ⟨hactive, o, howner, rfl⟩
      obtain ⟨o', -, howner', -, hkeyed⟩ := hkey _ he
      obtain rfl := Option.some.inj (howner.symm.trans howner')
      rw [← hkeyed]
      exact hleft _ he fun hmem => hnot (List.mem_map_of_mem hmem)
    · rw [List.pairwise_append]
      refine ⟨h.increasing, List.pairwise_map.mpr hselected, ?_⟩
      intro k hk k' hk'
      obtain ⟨e, he, rfl⟩ := List.mem_map.mp hk'
      have hbelow := h.below k hk
      have hpast := hfrom e (hsub.subset he)
      omega

end HeadKept

/-! ## §3 Every run -/

section Runs

variable {T : Transmission} {B H : UInt32} {as : List (Arrival (ℕ × ℕ))} {a : Arrival (ℕ × ℕ)}

/-- One more call: what it hands over, and where the head is then. -/
private theorem HeadKept.call (hhol : H ≠ 0) (hchannel : Channel T (as ++ [a]))
    (hfree : FreeSlots B H (as ++ [a])) (hindex : ∀ b ∈ as ++ [a], b.superframe < 2 ^ 64 - 1)
    (hahead : (afterCalls B H as).OpensAhead a) {ks : List ℕ}
    (h : HeadKept (afterCalls B H as) ks) :
    ∃ ks', (handedBy B H as a).map HandOver.superframe = ks'.map some ∧
      HeadKept (afterCalls B H (as ++ [a])) (ks ++ ks') ∧
      (afterCalls B H as).receiver.mNextExpectedFrameNumber ≤
        (afterCalls B H (as ++ [a])).receiver.mNextExpectedFrameNumber := by
  obtain ⟨htracked, -⟩ := hchannel.of_append.tracked hfree.of_append
  have hrecorded := recorded_run B H .RUN_TO_COMPLETION (as.map Event.receiveFragment)
  have hadmits := hchannel.admits hfree
  obtain ⟨f, hpacket, -⟩ := hadmits.fragment
  have hsame := (afterCalls B H as).receiver.unpackFragment_sameDelivery f a.lFromSource a.amb
  have hconfigured := (afterCalls_configured B H as).unpack f a.lFromSource a.amb
  have hunpacked := h.unpacked hahead (htracked.taken hrecorded hadmits hpacket)
  obtain ⟨ks', hks', hkept, hle⟩ := hunpacked.concluded
    (htracked.unpacked hrecorded hadmits hpacket)
    ((afterCalls_coherent B H as).unpack f a.lFromSource a.amb)
    (fun hzero => hhol (hconfigured.holTimeoutms.symm.trans hzero)) hindex a.amb.clockPass
  rw [(call_eq hpacket).1, (call_eq hpacket).2]
  refine ⟨ks', hks', hkept, ?_⟩
  rw [← hsame.nextExpected]
  exact hle

/-- **Head-of-line mode goes forward** as long as no bucket is opened below the head. -/
theorem headOfLine_forward (hhol : H ≠ 0) (hchannel : Channel T as) (hfree : FreeSlots B H as)
    (hindex : ∀ a ∈ as, a.superframe < 2 ^ 64 - 1)
    (hahead : EachCall (fun pre a => (afterCalls B H pre).OpensAhead a) as) : Forward B H as := by
  -- the run lemma carries the invariant along with the result
  suffices hrun : Forward B H as ∧ ∃ ks : List ℕ,
      (handedOver B H as).map HandOver.superframe = ks.map some ∧
      HeadKept (afterCalls B H as) ks from hrun.1
  induction as using List.reverseRecOn with
  | nil =>
    have hkept : HeadKept (afterCalls B H []) [] :=
      { first := fun _ => ⟨rfl, rfl⟩
        below := fun k hk => absurd hk List.not_mem_nil
        above := fun i o _ ho => absurd ho (by simp [(afterCalls_nil B H i).2.1])
        increasing := List.Pairwise.nil }
    exact ⟨⟨⟨[], rfl, List.Pairwise.nil⟩, EachCall.nil⟩, [], rfl, hkept⟩
  | append_singleton as a ih =>
    obtain ⟨⟨-, hhead⟩, ks, hks, hkept⟩ := ih hchannel.of_append hfree.of_append
      (forall_concat.mp hindex).1 hahead.of_append
    obtain ⟨ks', hks', hkept', hle⟩ := hkept.call hhol hchannel hfree hindex hahead.last
    have hall : (handedOver B H (as ++ [a])).map HandOver.superframe = (ks ++ ks').map some := by
      rw [handedOver_concat, List.map_append, List.map_append, hks, hks']
    exact ⟨⟨⟨ks ++ ks', hall, hkept'.increasing⟩, hhead.concat hle⟩, ks ++ ks', hall, hkept'⟩

end Runs

/-! ## §4 Two runs -/

/-- The fragment of a one-byte superframe, at this time. -/
def oneByteAt (k : ℕ) (hSuperFrameNo : UInt16) (time : ℤ) : Arrival (ℕ × ℕ) :=
  { oneByteArrival k hSuperFrameNo with amb := { clockOpen := time, clockPass := time } }

/-- Two superframes in their order. -/
def forwardArrivals : List (Arrival (ℕ × ℕ)) := [oneByteAt 0 0 0, oneByteAt 1 1 0]

/-- `forwardArrivals` go forward. -/
theorem headOfLine_forward_two : Forward 100 50 forwardArrivals := by
  have hchannel : Channel (Transmission.oneByteEach 0) forwardArrivals :=
    { fresh := rfl, emitted := by decide +kernel, start := by decide, near := by decide
      late := by decide }
  apply headOfLine_forward (by decide) hchannel
  · refine EachCall.two ?_ ?_
    · exact fun hactive => absurd hactive (by decide +kernel)
    · exact fun hactive => absurd hactive (by decide +kernel)
  · decide
  · refine EachCall.two ?_ ?_
    · exact fun hset => absurd hset (by decide +kernel)
    · -- the head is behind the first superframe
      exact fun _ _ _ _ => by decide +kernel

/-- The second superframe comes first. The head jumps behind it; then the first one comes, opens a
    bucket below the head and times out. -/
def lateArrivals : List (Arrival (ℕ × ℕ)) :=
  [oneByteAt 1 1 0, oneByteAt 0 0 1, oneByteAt 1 1 200000]

/-- `lateArrivals` hand over the second superframe and then the first. -/
theorem not_headOfLine_forward_late :
    ¬ ∀ (T : Transmission) (B H : UInt32) (as : List (Arrival (ℕ × ℕ))), H ≠ 0 → Channel T as →
      FreeSlots B H as → SteadyClock as → Forward B H as := by
  intro h
  have hchannel : Channel (Transmission.oneByteEach 0) lateArrivals :=
    { fresh := rfl, emitted := by decide +kernel, start := by decide, near := by decide
      late := by decide }
  have hfree : FreeSlots 100 50 lateArrivals := by
    refine EachCall.three ?_ ?_ ?_
    · exact fun hactive => absurd hactive (by decide +kernel)
    · exact fun hactive => absurd hactive (by decide +kernel)
    · exact fun hactive => absurd hactive (by decide +kernel)
  have hforward := h _ 100 50 lateArrivals (by decide) hchannel hfree
    (by unfold SteadyClock; decide)
  obtain ⟨ks, hks, hincreasing⟩ := hforward.increasing
  have hrun : (handedOver 100 50 lateArrivals).map HandOver.superframe = [some 1, some 0] := by
    decide +kernel
  rw [hrun] at hks
  have hboth : ks = [1, 0] := List.map_injective_iff.mpr (Option.some_injective ℕ) hks.symm
  rw [hboth] at hincreasing
  exact absurd hincreasing (by decide)

end ElasticFrame
