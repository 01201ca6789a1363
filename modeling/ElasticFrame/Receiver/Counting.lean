import ElasticFrame.Receiver.Accounting

/-!
# The Counter and the Bit Set

A bucket counts its fragments and keeps a bit for each position. The delivery engines compare the
counter with the announced count, and that tells whether the superframe is whole as long as every
position that was recorded is within the count.

One kind of packet breaks it: a type3 fragment that announces a count of zero has the position
65535, and nothing checks the position of a type3 fragment that opens a bucket.

- `Bucket.Counted`: the counter agrees with the bit set
- `counted_iff`: it does in every state of a run exactly when no such packet opens a bucket
-/

namespace ElasticFrame

open ElasticFrame.Lib

/-! ## §1 Counted buckets -/

/-- The counter and the bit set of a bucket tell the same. -/
structure Bucket.Counted (b : Bucket) : Prop where
  counter : b.mFragmentCounter.toNat + 1 = b.mHaveReceivedFragment.card
  placed : ∀ p ∈ b.mHaveReceivedFragment, p ≤ b.mOfFragmentNo
  complete : b.mFragmentCounter = b.mOfFragmentNo ↔
    ∀ p, p ≤ b.mOfFragmentNo → p ∈ b.mHaveReceivedFragment

/-- A bucket that accounts for its fragments is counted, when each is within the count. -/
theorem Accounted.counted {b : Bucket} {fs : List Fragment} (h : Accounted b fs)
    (hplaced : ∀ f ∈ fs, f.fragmentNo ≤ b.mOfFragmentNo) : b.Counted := by
  have hle := h.length_le hplaced
  have hpos : 0 < fs.length := List.length_pos_of_ne_nil h.ne_nil
  have hlt := b.mOfFragmentNo.toNat_lt
  refine ⟨?_, ?_, ?_⟩
  · rw [h.counter, UInt16.toNat_ofNat', Nat.mod_eq_of_lt (by omega), h.received,
      List.toFinset_card_of_nodup h.nodup, List.length_map]
    omega
  · intro p hp
    rw [h.received, List.mem_toFinset] at hp
    obtain ⟨f, hf, rfl⟩ := List.mem_map.mp hp
    exact hplaced f hf
  · have hcomplete := h.complete_iff hplaced
    rw [Bucket.complete, decide_eq_true_eq] at hcomplete
    rw [hcomplete]
    apply forall₂_congr
    intro p _
    rw [h.received, List.mem_toFinset, List.mem_map]

/-! ## §2 Openings that are not counted -/

section Runs

variable {τ : Type}

/-- A type3 fragment that announces a count of zero opens a bucket: its slot is free under another
    order, and there is memory. -/
def Traced.OpensUncounted (s : Traced τ) : Event τ → Prop
  | .receiveFragment a => ∃ h d, Fragment.ofPacket a.pSubPacket = some (.type3 h d) ∧
      h.hOfFragmentNo = 0 ∧ (s.receiver.mBucketList (slotOf h.hSuperFrameNo)).mActive = false ∧
      s.receiver.candidate h.hSuperFrameNo ≠
        (s.receiver.mBucketList (slotOf h.hSuperFrameNo)).mDeliveryOrder ∧
      a.amb.allocates = true
  | _ => False

/-- The record of a bucket is right, and every recorded position is within the count. -/
def Placed (i : Slot) (b : Bucket) (accepted : List (Arrival τ)) : Prop :=
  Recorded i b accepted ∧ ∀ f ∈ fragments accepted, f.fragmentNo ≤ b.mOfFragmentNo

theorem Placed.counted {i : Slot} {b : Bucket} {accepted : List (Arrival τ)}
    (h : Placed i b accepted) : b.Counted := h.1.1.counted h.2

/-- Unpacking keeps that, but for an opening that is not counted. -/
theorem placed_unpacked {s : Traced τ} (h : s.InUse Placed) {a : Arrival τ} {f : Fragment}
    (hpacket : Fragment.ofPacket a.pSubPacket = some f)
    (hopener : ¬ s.OpensUncounted (.receiveFragment a)) : (s.unpacked a f).InUse Placed := by
  apply h.unpacked
  · intro hidle hnew halloc hplaced
    rw [Placed, Recorded, fragments_singleton hpacket]
    obtain ⟨hacc, hmeta⟩ := accounted_opened s.receiver f a.lFromSource a.amb hplaced
    refine ⟨⟨hacc, hmeta⟩, fun g hg => ?_⟩
    rcases hacc.placed g hg with hle | ⟨h₃, d, rfl, hzero⟩
    · exact hle
    · obtain rfl := List.mem_singleton.mp hg
      exact absurd ⟨h₃, d, hpacket, hzero, hidle, hnew, halloc⟩ hopener
  · rintro - hsame hpos hof hnew ⟨⟨hacc, hmeta⟩, hplaced⟩
    rw [Placed, Recorded, fragments_concat hpacket]
    have hadded := accounted_added hacc hsame hpos hof hnew
    obtain ⟨-, -, -, -, hof', -⟩ := s.receiver.filledBucket_common f
    refine ⟨⟨hadded, metadata_added hadded hmeta⟩, fun g hg => ?_⟩
    rw [hof']
    rcases List.mem_append.mp hg with hg | hg
    · exact hplaced g hg
    · obtain rfl := List.mem_singleton.mp hg
      exact hpos

/-- The opening that is not counted leaves a bucket in use that is not counted. -/
theorem not_counted_of_opensUncounted {s : Traced τ} {a : Arrival τ}
    (h : s.OpensUncounted (.receiveFragment a)) :
    ∃ f, Fragment.ofPacket a.pSubPacket = some f ∧
      ¬ (s.unpacked a f).InUse fun _ b _ => b.Counted := by
  obtain ⟨h₃, d, hpacket, hzero, hidle, hnew, halloc⟩ := h
  refine ⟨_, hpacket, fun hcounted => ?_⟩
  have hbucket := hcounted (Fragment.type3 h₃ d).slot
  have hstep := Receiver.unpackFragment_freeStep (f := .type3 h₃ d) hidle a.lFromSource a.amb
  change ((s.receiver.unpackFragment _ _ _).receiver.mBucketList _).mActive = true →
    ((s.receiver.unpackFragment _ _ _).receiver.mBucketList _).Counted at hbucket
  generalize (s.receiver.unpackFragment (.type3 h₃ d) a.lFromSource a.amb).message = message
    at hstep
  generalize (s.receiver.unpackFragment (.type3 h₃ d) a.lFromSource a.amb).receiver = r'
    at hstep hbucket
  cases hstep with
  | tooOld hold => exact absurd hold hnew
  | refused _ hwhy =>
    rcases hwhy with hfails | hmisplaced
    · exact absurd (halloc.symm.trans hfails) (by simp)
    · exact absurd hmisplaced (by simp [Fragment.misplaced])
  | opened =>
    -- position 65535 is recorded in a bucket that expects a single fragment
    simp only [Receiver.setBucket_list, Function.update_self] at hbucket
    have hle : h₃.hOfFragmentNo - 1 ≤ h₃.hOfFragmentNo :=
      (hbucket rfl).placed _ (Finset.mem_singleton_self _)
    rw [hzero] at hle
    exact absurd hle (by decide)

/-! ## §3 Whole runs -/

/-- The buckets in use are counted after a step and, when the step unpacks a fragment, before the
    delivery at its end. -/
def Traced.CountedStep (s : Traced τ) (e : Event τ) : Prop :=
  ((s.step e).1.InUse fun _ b _ => b.Counted) ∧
    ∀ a f, e = .receiveFragment a → Fragment.ofPacket a.pSubPacket = some f →
      (s.unpacked a f).InUse fun _ b _ => b.Counted

variable (B H : UInt32) (mode : EFPReceiverMode) (es : List (Event τ))

/-- As long as no opening is uncounted, every recorded position is within its count. -/
theorem placed_run
    (hopeners : ∀ s e, (receiverMachine τ).Takes (Traced.fresh τ B H mode) es s e →
      ¬ s.OpensUncounted e) :
    ((receiverMachine τ).run (Traced.fresh τ B H mode) es).InUse Placed := by
  have hrun := (receiverMachine τ).run_invariant
    (I := fun s => s.receiver.Coherent ∧ s.InUse Placed) (C := fun s e => ¬ s.OpensUncounted e)
    (s := Traced.fresh τ B H mode) (w := es)
    ⟨Receiver.coherent_new B H mode, fun i hactive => by
      simp [Traced.fresh, Receiver.new] at hactive⟩
    (fun s e hC hI => ⟨Traced.coherent_step hI.1 e, Traced.step_inUse hI.1 hI.2 (by
      rintro a f rfl hpacket
      exact placed_unpacked hI.2 hpacket hC)⟩)
    hopeners
  exact hrun.2

/-- **When the counter can be trusted**: in a run of arbitrary packets every bucket in use is
    counted in every state, exactly when no type3 fragment with a count of zero opens a bucket. -/
theorem counted_iff :
    (∀ s e, (receiverMachine τ).Takes (Traced.fresh τ B H mode) es s e → s.CountedStep e) ↔
      ∀ s e, (receiverMachine τ).Takes (Traced.fresh τ B H mode) es s e →
        ¬ s.OpensUncounted e := by
  constructor
  · rintro hcounted s (a | _ | _) htakes hopens
    · obtain ⟨f, hpacket, hnot⟩ := not_counted_of_opensUncounted hopens
      exact hnot ((hcounted s _ htakes).2 a f rfl hpacket)
    · exact hopens
    · exact hopens
  · intro hopeners s e htakes
    obtain ⟨pre, post, hsplit, rfl⟩ := htakes
    -- the invariant before the step and after it
    have hsteps : ∀ w, (∃ js, es = w ++ js) →
        ((receiverMachine τ).run (Traced.fresh τ B H mode) w).InUse Placed := by
      rintro w ⟨js, hw⟩
      apply placed_run B H mode w
      intro s' e' htakes'
      apply hopeners s' e'
      rw [hw]
      exact htakes'.of_append
    have hbefore := hsteps pre ⟨_, hsplit⟩
    have hafter := hsteps (pre ++ [e]) ⟨post, by simp [hsplit]⟩
    rw [Machine.run_concat] at hafter
    refine ⟨fun i hactive => (hafter i hactive).counted, ?_⟩
    rintro a f rfl hpacket i hactive
    have hunpacked := placed_unpacked hbefore hpacket (hopeners _ _ ⟨pre, post, hsplit, rfl⟩)
    exact (hunpacked i hactive).counted

end Runs

/-- A type3 packet that announces a count of zero. -/
def uncountedArrival : Arrival Unit where
  label := ()
  pSubPacket := ElasticFrameType3.toBytes
    { hFrameType := 3, hStreamID := 1, hSuperFrameNo := 5, hType1PacketSize := 0,
      hOfFragmentNo := 0 }
  lFromSource := 0
  amb := { clockOpen := 0, clockPass := 0 }

/-- After that packet the bucket looks complete without its only position. -/
theorem not_counted_uncounted :
    let b := ((receiverMachine Unit).run (Traced.fresh Unit 100 0 .THREADED)
      [.receiveFragment uncountedArrival]).receiver.mBucketList (slotOf 5)
    b.mActive = true ∧ b.mFragmentCounter = b.mOfFragmentNo ∧ 0 ≤ b.mOfFragmentNo ∧
      0 ∉ b.mHaveReceivedFragment ∧ ¬ b.Counted := by
  intro b
  have hbit : 0 ∉ b.mHaveReceivedFragment := by decide +kernel
  refine ⟨by decide +kernel, by decide +kernel, by decide +kernel, hbit, fun hcounted => ?_⟩
  exact hbit (hcounted.complete.mp (by decide +kernel) 0 (by decide +kernel))

end ElasticFrame
