import ElasticFrame.Receiver.Accounting
import ElasticFrame.Receiver.Bounds

/-!
# Intact Superframes

`mBroken` says whether the data of a superframe is intact. It is computed from the fragment
counter alone: no unpack function checks that the last position holds a type2 fragment, or that
the payloads fill their places. This file says which fragments make the flag right.

- `WellFormed`: what the fragments of one superframe must be
- `Laid`: what the memory of a bucket then looks like
- `unbroken_intact`: a superframe handed out unbroken whose fragments are well formed is intact
-/

namespace ElasticFrame

open ElasticFrame.Lib

/-! ## §1 Well-formed fragments -/

namespace Fragment

/-- A fragment fills its place in a superframe with type1 payloads of `size` bytes: a type1 fragment
    is not the last one and is not short, a type2 fragment with data knows the payload size, a
    type3 fragment has a position. -/
def Regular (size : ℕ) : Fragment → Prop
  | type1 h d => h.hFragmentNo ≠ h.hOfFragmentNo ∧ size ≤ d.length
  | type2 h _ => h.hSizeOfData ≠ 0 → h.hType1PacketSize.toNat = size
  | type3 h _ => h.hOfFragmentNo ≠ 0

/-- A type2 fragment with data claims the place behind a type3 fragment that does not fill its
    own. -/
def LeavesGap (size : ℕ) (f f' : Fragment) : Prop :=
  (∃ h d, f = type3 h d ∧ d.length < size) ∧ ∃ h d, f' = type2 h d ∧ h.hSizeOfData ≠ 0

/-- The copy of an opening fragment goes where the copy of an added one would go. -/
theorem insertPointer_self (f : Fragment) :
    f.insertPointer f.fragmentSize = sizeT (f.fragmentSize * f.fragmentNo.toNat) := by
  cases f <;> rfl

end Fragment

/-- The fragments of one superframe, in the order in which they were accepted, for a payload size
    that the first one determines. -/
structure WellFormed (size : ℕ) (fs : List Fragment) : Prop where
  regular : ∀ f ∈ fs, f.Regular size
  fits : ∀ f ∈ fs, size * f.hOfFragmentNo.toNat < 2 ^ 64
  order : fs.Pairwise fun f f' => ¬ Fragment.LeavesGap size f f'

theorem WellFormed.of_append {size : ℕ} {fs gs : List Fragment} (h : WellFormed size (fs ++ gs)) :
    WellFormed size fs where
  regular := fun f hf => h.regular f (List.mem_append_left _ hf)
  fits := fun f hf => h.fits f (List.mem_append_left _ hf)
  order := (List.pairwise_append.mp h.order).1

/-! ## §2 The memory of a bucket -/

/-- What the stored size goes back to: no fragment but type1, the last type3, or the last type2. -/
inductive Sized (size n : ℕ) (fs : List Fragment) (frameSize : ℕ) : Prop where
  | whole (hnone : ∀ h d, .type3 h d ∉ fs) (hle : frameSize ≤ size * n)
  | upToType3 (h : ElasticFrameType3) (d : List UInt8) (hmem : .type3 h d ∈ fs)
      (hle : frameSize ≤ size * (n - 1) + d.length)
  | upToType2 (h : ElasticFrameType2) (d : List UInt8) (hmem : .type2 h d ∈ fs)
      (hle : frameSize ≤ size * n + h.hSizeOfData.toNat)
      (hfull : ∀ h' d', .type3 h' d' ∈ fs → size ≤ d'.length)

/-- The memory of a bucket: every accepted fragment was copied to its place, and the stored size
    goes back to one of them when they are well formed. -/
def Laid (b : Bucket) (fs : List Fragment) : Prop :=
  ∃ d block, b.mBucketData = some d ∧ d.pFrameData = some block ∧
    (∀ f ∈ fs, block.Written (f.insertPointer b.mFragmentSize)
      (f.insertPointer b.mFragmentSize + f.data.length)) ∧
    (WellFormed b.mFragmentSize fs →
      Sized b.mFragmentSize b.mOfFragmentNo.toNat fs d.mFrameSize)

/-- A bucket just opened is laid. -/
private theorem laid_opened (r : Receiver) (f : Fragment) (lFromSource : UInt8) {amb : Ambient}
    (halloc : amb.allocates = true) : Laid (r.openedWith f lFromSource amb) [f] := by
  -- the allocator gave the block, and the data of the fragment was copied into it
  have hblock : (f.newBucketData amb.allocates).pFrameData = some (Block.alloc f.reserve) := by
    rw [halloc]
    cases f <;> rfl
  refine ⟨{ f.newBucketData amb.allocates with
      pFrameData := some ((Block.alloc f.reserve).copy
        (sizeT (f.fragmentSize * f.fragmentNo.toNat)) f.data) },
    _, ?_, rfl, ?_, ?_⟩
  · rw [Receiver.openedWith, Bucket.copy_mBucketData]
    simp [Receiver.openedBucket, hblock]
  · intro f' hf'
    obtain rfl := List.mem_singleton.mp hf'
    show Block.Written _ (f'.insertPointer f'.fragmentSize)
      (f'.insertPointer f'.fragmentSize + f'.data.length)
    rw [f'.insertPointer_self]
    exact Block.written_copy _ _ _
  · intro hwell
    have hregular := hwell.regular f List.mem_cons_self
    rw [halloc]
    cases f with
    | type1 h d =>
      apply Sized.whole
      · simp
      · exact sizeT_le _
    | type2 h d =>
      apply Sized.upToType2 h d List.mem_cons_self
      · exact sizeT_le _
      · simp
    | type3 h d =>
      apply Sized.upToType3 h d List.mem_cons_self
      show sizeT (h.hType1PacketSize.toNat * sizeT (h.hOfFragmentNo.toNat + (2 ^ 64 - 1)) +
        d.length) ≤ h.hType1PacketSize.toNat * (h.hOfFragmentNo.toNat - 1) + d.length
      rw [(sizeT_sub_one hregular).1]
      exact sizeT_le _

/-- The stored size after a fragment was added. -/
private theorem sized_added {size frameSize : ℕ} {n : UInt16} {fs : List Fragment} {f : Fragment}
    (h : Sized size n.toNat fs frameSize) (hwell : WellFormed size (fs ++ [f]))
    (hof : f.hOfFragmentNo = n) :
    Sized size n.toNat (fs ++ [f]) (f.fillFrameSize size frameSize) := by
  have hregular := hwell.regular f (List.mem_append_right _ List.mem_cons_self)
  -- a fragment that leaves the size alone and is no type3 leaves the reason for the size alone
  have hkeep : (∀ h₃ d₃, f ≠ .type3 h₃ d₃) → Sized size n.toNat (fs ++ [f]) frameSize := by
    intro hnot
    cases h with
    | whole hnone hle =>
      refine .whole (fun h₃ d₃ hmem => ?_) hle
      rcases List.mem_append.mp hmem with hmem | hmem
      · exact hnone h₃ d₃ hmem
      · exact hnot h₃ d₃ (List.mem_singleton.mp hmem).symm
    | upToType3 h₃ d₃ hmem hle =>
      exact .upToType3 h₃ d₃ (List.mem_append_left _ hmem) hle
    | upToType2 h₂ d₂ hmem hle hfull =>
      refine .upToType2 h₂ d₂ (List.mem_append_left _ hmem) hle fun h₃ d₃ hmem₃ => ?_
      rcases List.mem_append.mp hmem₃ with hmem₃ | hmem₃
      · exact hfull h₃ d₃ hmem₃
      · exact absurd (List.mem_singleton.mp hmem₃).symm (hnot h₃ d₃)
  cases f with
  | type1 h₁ d₁ => exact hkeep (by simp)
  | type2 h₂ d₂ =>
    -- a type2 fragment sets the size when it has data
    subst hof
    show Sized _ _ _ (if h₂.hSizeOfData = 0 then frameSize else sizeT (_ * _ + _))
    split
    case isTrue => exact hkeep (by simp)
    case isFalse hsome =>
      refine .upToType2 h₂ d₂ (List.mem_append_right _ List.mem_cons_self) (sizeT_le _) ?_
      intro h₃ d₃ hmem
      rcases List.mem_append.mp hmem with hmem | hmem
      · -- a short type3 fragment before would leave a gap
        have horder := (List.pairwise_append.mp hwell.order).2.2 _ hmem _ List.mem_cons_self
        by_contra hshort
        exact horder ⟨⟨h₃, d₃, rfl, not_le.mp hshort⟩, ⟨h₂, d₂, rfl, hsome⟩⟩
      · exact absurd (List.mem_singleton.mp hmem) (by simp)
  | type3 h₃ d₃ =>
    subst hof
    apply Sized.upToType3 h₃ d₃ (List.mem_append_right _ List.mem_cons_self)
    show sizeT (size * sizeT (h₃.hOfFragmentNo.toNat + (2 ^ 64 - 1)) + d₃.length) ≤
      size * (h₃.hOfFragmentNo.toNat - 1) + d₃.length
    rw [(sizeT_sub_one hregular).1]
    exact sizeT_le _

/-- A bucket that a fragment was added to is laid. -/
private theorem laid_added {r : Receiver} {f : Fragment} {fs : List Fragment}
    (h : Laid (r.mBucketList f.slot) fs)
    (hof : f.hOfFragmentNo = (r.mBucketList f.slot).mOfFragmentNo) :
    Laid (r.filledBucket f) (fs ++ [f]) := by
  obtain ⟨d, block, hdata, hblock, hwritten, hsized⟩ := h
  obtain ⟨-, -, -, -, hof', hsize', -⟩ := r.filledBucket_common f
  refine ⟨f.fill (r.mBucketList f.slot).mFragmentSize d,
    block.copy (f.insertPointer (r.mBucketList f.slot).mFragmentSize) f.data, ?_, ?_, ?_, ?_⟩
  · rw [r.filledBucket_data f, hdata]
    rfl
  · simp [Fragment.fill, hblock]
  · rw [hsize']
    intro f' hf'
    rcases List.mem_append.mp hf' with hf' | hf'
    · exact (hwritten f' hf').copy _ _
    · obtain rfl := List.mem_singleton.mp hf'
      exact Block.written_copy _ _ _
  · rw [hsize', hof']
    intro hwell
    exact sized_added (hsized hwell.of_append) hwell hof

/-! ## §3 Complete and well formed means intact -/

section Complete

variable {b : Bucket} {fs : List Fragment} (hacc : Accounted b fs)
  (hwell : WellFormed b.mFragmentSize fs)

include hacc hwell

/-- Well-formed fragments have positions within the announced count. -/
private theorem WellFormed.placed : ∀ f ∈ fs, f.fragmentNo ≤ b.mOfFragmentNo := by
  intro f hf
  rcases hacc.placed f hf with hplaced | ⟨h, d, rfl, hzero⟩
  · exact hplaced
  · exact absurd hzero (hwell.regular _ hf)

/-- The only well-formed fragment at the last position is a type2 fragment. -/
private theorem WellFormed.last {f : Fragment} (hf : f ∈ fs)
    (hno : f.fragmentNo = b.mOfFragmentNo) :
    ∃ h d, f = .type2 h d := by
  have hregular := hwell.regular f hf
  have hof := (hacc.same f hf).2
  cases f with
  | type1 h d => exact absurd (hno.trans hof.symm) hregular.1
  | type2 h d => exact ⟨h, d, rfl⟩
  | type3 h d =>
    have hpred : (h.hOfFragmentNo - 1).toNat = h.hOfFragmentNo.toNat - 1 :=
      (sizeT_sub_one hregular).2
    have hsame : (h.hOfFragmentNo - 1).toNat = h.hOfFragmentNo.toNat :=
      congrArg UInt16.toNat (hno.trans hof.symm)
    have hpos : h.hOfFragmentNo.toNat ≠ 0 := fun h0 => hregular (UInt16.toNat_inj.mp h0)
    omega

/-- A position times the payload size is no more than a `size_t`. -/
private theorem WellFormed.sizeT_mul {f : Fragment} (hf : f ∈ fs) {p : ℕ}
    (hp : p ≤ b.mOfFragmentNo.toNat) : sizeT (b.mFragmentSize * p) = b.mFragmentSize * p := by
  have hfits := hwell.fits f hf
  rw [(hacc.same f hf).2] at hfits
  exact sizeT_of_lt ((Nat.mul_le_mul_left _ hp).trans_lt hfits)

variable {block : Block} (hwritten : ∀ f ∈ fs, block.Written (f.insertPointer b.mFragmentSize)
  (f.insertPointer b.mFragmentSize + f.data.length))

include hwritten

/-- A position below the last one is filled, by a type1 fragment or by a type3 fragment that is
    not short. -/
private theorem WellFormed.place_written {f : Fragment} (hf : f ∈ fs) {p : ℕ}
    (hno : f.fragmentNo.toNat = p) (hp : p < b.mOfFragmentNo.toNat)
    (hfull : ∀ h d, f = .type3 h d → b.mFragmentSize ≤ d.length) :
    block.Written (b.mFragmentSize * p) (b.mFragmentSize * (p + 1)) := by
  have hwrote := hwritten f hf
  have hmul := hwell.sizeT_mul hacc hf hp.le
  have hlen : b.mFragmentSize ≤ f.data.length ∧
      f.insertPointer b.mFragmentSize = b.mFragmentSize * p := by
    cases f with
    | type1 h d =>
      refine ⟨(hwell.regular _ hf).2, ?_⟩
      show sizeT (b.mFragmentSize * h.hFragmentNo.toNat) = _
      rw [← hmul, ← hno]
      rfl
    | type2 h d =>
      -- a type2 fragment is at the last position
      have hof : h.hOfFragmentNo = b.mOfFragmentNo := (hacc.same _ hf).2
      have hlast : h.hOfFragmentNo.toNat = p := hno
      rw [hof] at hlast
      omega
    | type3 h d =>
      refine ⟨hfull h d rfl, ?_⟩
      show sizeT (b.mFragmentSize * (h.hOfFragmentNo - 1).toNat) = _
      rw [← hmul, ← hno]
      rfl
  rw [hlen.2] at hwrote
  apply hwrote.mono le_rfl
  rw [Nat.mul_succ]
  exact Nat.add_le_add_left hlen.1 _

/-- The positions below `p` are filled, one after the other. -/
private theorem WellFormed.prefix_written (hcomplete : b.complete = true) {p : ℕ}
    (hp : p ≤ b.mOfFragmentNo.toNat)
    (hfull : ∀ h d, .type3 h d ∈ fs → h.hOfFragmentNo.toNat ≤ p → b.mFragmentSize ≤ d.length) :
    block.Written 0 (b.mFragmentSize * p) := by
  -- each position ends where the next one begins
  induction p with
  | zero =>
    intro x _ hx
    exact absurd hx (Nat.not_lt_zero x)
  | succ p ih =>
    have hbelow := ih (Nat.le_of_succ_le hp) fun h d hmem hle => hfull h d hmem (by omega)
    -- the bucket is complete, so there is a fragment at position `p`
    have hlt := b.mOfFragmentNo.toNat_lt
    have hback : (UInt16.ofNat p).toNat = p := by
      rw [UInt16.toNat_ofNat']
      exact Nat.mod_eq_of_lt (by omega)
    obtain ⟨f, hf, hno⟩ := (hacc.complete_iff (hwell.placed hacc)).mp hcomplete (UInt16.ofNat p)
      (UInt16.le_iff_toNat_le.mpr (by omega))
    have hno : f.fragmentNo.toNat = p := by rw [hno, hback]
    apply hbelow.append
    apply hwell.place_written hacc hwritten hf hno hp
    rintro h d rfl
    apply hfull h d hf
    have hpred : (h.hOfFragmentNo - 1).toNat = h.hOfFragmentNo.toNat - 1 :=
      (sizeT_sub_one (hwell.regular _ hf)).2
    have hposition : (h.hOfFragmentNo - 1).toNat = p := hno
    omega

/-- **Every byte is written**: the fragments of a complete bucket leave no gap below the stored
    size. -/
private theorem WellFormed.written (hcomplete : b.complete = true)
    (hproper : ∀ f ∈ fs, f.Proper) {frameSize : ℕ}
    (hsized : Sized b.mFragmentSize b.mOfFragmentNo.toNat fs frameSize) :
    block.Written 0 frameSize := by
  -- up to the fragment that set the size every place is full
  cases hsized with
  | whole hnone hle =>
    have hall := hwell.prefix_written hacc hwritten hcomplete le_rfl fun h d hmem _ =>
      absurd hmem (hnone h d)
    exact hall.mono le_rfl hle
  | upToType3 h d hmem hle =>
    have hpred : (h.hOfFragmentNo - 1).toNat = h.hOfFragmentNo.toNat - 1 :=
      (sizeT_sub_one (hwell.regular _ hmem)).2
    have hpos : h.hOfFragmentNo.toNat ≠ 0 := fun h0 =>
      hwell.regular _ hmem (UInt16.toNat_inj.mp h0)
    have hof : h.hOfFragmentNo = b.mOfFragmentNo := (hacc.same _ hmem).2
    rw [hof] at hpred hpos
    have hbefore := hwell.prefix_written hacc hwritten hcomplete
      (p := b.mOfFragmentNo.toNat - 1) (Nat.sub_le _ _) fun h' d' hmem' hle' => by
        -- a type3 fragment is not below its own position
        have hof' : h'.hOfFragmentNo = b.mOfFragmentNo := (hacc.same _ hmem').2
        rw [hof'] at hle'
        omega
    have hown : block.Written (b.mFragmentSize * (b.mOfFragmentNo.toNat - 1))
        (b.mFragmentSize * (b.mOfFragmentNo.toNat - 1) + d.length) := by
      have hwrote := hwritten _ hmem
      have hplace : (Fragment.type3 h d).insertPointer b.mFragmentSize =
          b.mFragmentSize * (b.mOfFragmentNo.toNat - 1) := by
        show sizeT (b.mFragmentSize * (h.hOfFragmentNo - 1).toNat) = _
        rw [hof, hpred]
        exact hwell.sizeT_mul hacc hmem (Nat.sub_le _ _)
      rw [hplace] at hwrote
      exact hwrote
    exact (hbefore.append hown).mono le_rfl hle
  | upToType2 h d hmem hle hfull =>
    have hbefore := hwell.prefix_written hacc hwritten hcomplete le_rfl fun h' d' hmem' _ =>
      hfull h' d' hmem'
    by_cases hzero : h.hSizeOfData = 0
    · rw [hzero] at hle
      exact hbefore.mono le_rfl hle
    · have hown := hwritten _ hmem
      have hof : h.hOfFragmentNo = b.mOfFragmentNo := (hacc.same _ hmem).2
      have hplace : (Fragment.type2 h d).insertPointer b.mFragmentSize =
          b.mFragmentSize * b.mOfFragmentNo.toNat := by
        show sizeT (h.hType1PacketSize.toNat * h.hOfFragmentNo.toNat) = _
        rw [hwell.regular _ hmem hzero, hof]
        exact hwell.sizeT_mul hacc hmem le_rfl
      have hlen : (Fragment.type2 h d).data.length = h.hSizeOfData.toNat := hproper _ hmem
      rw [hplace, hlen] at hown
      exact (hbefore.append hown).mono le_rfl hle

end Complete

/-! ## §4 Every run -/

section Run

variable {τ : Type}

/-- A superframe is intact: a type2 fragment of its number was accepted and its metadata are from
    there, and every byte was written by an accepted fragment. The memory is as the allocator gave
    it wherever no fragment was copied to (`Block.alloc`). -/
structure HandOver.Intact (x : HandOver τ) : Prop where
  metadata : ∃ h d, Fragment.type2 h d ∈ fragments x.accepted ∧
    h.hSuperFrameNo = x.frame.mSuperFrameNo ∧ x.frame.mPts = h.hPts ∧
    x.frame.mDts = (Fragment.type2 h d).mDts ∧ x.frame.mCode = h.hCode ∧
    x.frame.mDataContent = h.hDataContent ∧ x.frame.mStreamID = h.hStreamID ∧
    x.frame.mFlags = h.hFrameType &&& 0xf0
  written : ∃ block, x.frame.pFrameData = some block ∧ block.Written 0 x.frame.mFrameSize

/-- The accepted fragments are well formed, for the payload size that the first one determines. -/
def HandOver.WellFormed (x : HandOver τ) : Prop :=
  ∀ g ∈ (fragments x.accepted).head?,
    ElasticFrame.WellFormed g.fragmentSize (fragments x.accepted)

/-- The record and the memory of a bucket in use. -/
private def RecordedLaid (i : Slot) (b : Bucket) (accepted : List (Arrival τ)) : Prop :=
  Recorded i b accepted ∧ Laid b (fragments accepted)

private theorem recordedLaid_unpacked {s : Traced τ} (h : s.InUse RecordedLaid) {a : Arrival τ}
    {f : Fragment} (hpacket : Fragment.ofPacket a.pSubPacket = some f) :
    (s.unpacked a f).InUse RecordedLaid := by
  have hrecorded := recorded_unpacked (s := s) (fun i hactive => (h i hactive).1) hpacket
  have hbefore : s.InUse fun _ b accepted => Laid b (fragments accepted) :=
    fun i hactive => (h i hactive).2
  have hlaid : (s.unpacked a f).InUse fun _ b accepted => Laid b (fragments accepted) := by
    apply hbefore.unpacked
    · intro _ _ halloc _
      rw [fragments_singleton hpacket]
      exact laid_opened s.receiver f a.lFromSource halloc
    · intro _ _ _ hof _ hlaid
      rw [fragments_concat hpacket]
      exact laid_added hlaid hof
  exact fun i hactive => ⟨hrecorded i hactive, hlaid i hactive⟩

private theorem recordedLaid_run (B H : UInt32) (mode : EFPReceiverMode) (es : List (Event τ)) :
    ((receiverMachine τ).run (Traced.fresh τ B H mode) es).InUse RecordedLaid :=
  Traced.inUse_run B H mode fun _ _ _ _ _ hpacket h => recordedLaid_unpacked h hpacket

/-- An accepted fragment was unpacked from a packet. -/
private theorem proper_of_accepted {accepted : List (Arrival τ)} {f : Fragment}
    (hf : f ∈ fragments accepted) : f.Proper := by
  obtain ⟨a, -, hpacket⟩ := List.mem_filterMap.mp hf
  exact (Fragment.proper_of_ofPacket hpacket).1

/-- What is behind a superframe that a run hands out unbroken: a complete bucket, its record and its
    memory. -/
private theorem unbroken_bucket {B H : UInt32} {mode : EFPReceiverMode} {es : List (Event τ)}
    {o : Report τ} (ho : o ∈ (receiverMachine τ).outputs (Traced.fresh τ B H mode) es)
    {x : HandOver τ} (hx : x ∈ o.handed) (hbroken : x.frame.mBroken = false) :
    ∃ b d, RecordedLaid x.slot b x.accepted ∧ b.mBucketData = some d ∧ x.frame = b.assemble d ∧
      b.complete = true := by
  obtain ⟨s, e, ⟨pre, post, -, rfl⟩, rfl⟩ := (receiverMachine τ).mem_outputs_iff.mp ho
  have hlaid := recordedLaid_run B H mode pre
  obtain ⟨b, d, hb, hdata, hframe, -⟩ :=
    Traced.step_handed_inUse (coherent_run B H mode pre) hlaid
      (fun a f _ hpacket => recordedLaid_unpacked hlaid hpacket) hx
  refine ⟨b, d, hb, hdata, hframe, ?_⟩
  rw [hframe] at hbroken
  simpa [Bucket.assemble, Bucket.complete] using hbroken

/-- **Unbroken means intact**, when the accepted fragments are well formed. In every run, whatever
    the packets: a superframe that is handed out unbroken and whose fragments are well formed is
    intact, and one with a type1 fragment at the last position is not. -/
theorem unbroken_intact (B H : UInt32) (mode : EFPReceiverMode) (es : List (Event τ)) :
    (∀ o ∈ (receiverMachine τ).outputs (Traced.fresh τ B H mode) es, ∀ x ∈ o.handed,
      x.frame.mBroken = false → x.WellFormed → x.Intact) ∧
    (∀ o ∈ (receiverMachine τ).outputs (Traced.fresh τ B H mode) es, ∀ x ∈ o.handed,
      x.frame.mBroken = false → x.Intact →
        ∀ h d, .type1 h d ∈ fragments x.accepted → h.hFragmentNo ≠ h.hOfFragmentNo) := by
  constructor
  · intro o ho x hx hbroken hwell
    obtain ⟨b, d, ⟨⟨hacc, hmeta⟩, d', block, hdata', hblock, hwritten, hsized⟩, hdata, hframe,
      hcomplete⟩ := unbroken_bucket ho hx hbroken
    obtain rfl := Option.some.inj (hdata'.symm.trans hdata)
    obtain ⟨g, hg, hsize⟩ := Option.map_eq_some_iff.mp hacc.opener
    have hwell := hwell g hg
    rw [hsize] at hwell
    constructor
    · -- the fragment at the last position is of type 2
      obtain ⟨f, hf, hno⟩ := (hacc.complete_iff (hwell.placed hacc)).mp hcomplete
        b.mOfFragmentNo (UInt16.le_refl _)
      obtain ⟨h, d₂, rfl⟩ := hwell.last hacc hf hno
      obtain ⟨hpts, hdts, hcode, hcontent, hstream, hflags⟩ := hmeta h d₂ hf
      refine ⟨h, d₂, hf, ?_, ?_⟩
      · rw [hframe]
        exact (hacc.same _ hf).1
      · rw [hframe]
        exact ⟨hpts, hdts, hcode, hcontent, hstream, hflags⟩
    · refine ⟨block, ?_, ?_⟩
      · rw [hframe]
        exact hblock
      · rw [hframe]
        exact hwell.written hacc hwritten hcomplete (fun f hf => proper_of_accepted hf)
          (hsized hwell)
  · rintro o ho x hx hbroken ⟨⟨h₂, d₂, hmem₂, -⟩, -⟩ h₁ d₁ hmem₁ hlast
    obtain ⟨b, d, ⟨⟨hacc, -⟩, -⟩, -⟩ := unbroken_bucket ho hx hbroken
    -- the type2 fragment has the last position, and positions are not shared
    have hsame : (Fragment.type1 h₁ d₁).fragmentNo = (Fragment.type2 h₂ d₂).fragmentNo :=
      calc h₁.hFragmentNo = h₁.hOfFragmentNo := hlast
        _ = b.mOfFragmentNo := (hacc.same _ hmem₁).2
        _ = h₂.hOfFragmentNo := (hacc.same _ hmem₂).2.symm
    exact absurd (List.inj_on_of_nodup_map hacc.nodup hmem₁ hmem₂ hsame) (by simp)

end Run

/-- A type2 fragment that announces a type1 payload of ten bytes in front of its one byte, and then
    a type1 fragment with one byte. -/
def gapRun : List (Event Unit) :=
  [.receiveFragment
    { label := (), lFromSource := 0, amb := { clockOpen := 0, clockPass := 0 }
      pSubPacket := [2, 1, 0, 0, 1, 0, 0, 0, 1, 0, 10, 0] ++ List.replicate 20 0 ++ [7] },
   .receiveFragment
    { label := (), lFromSource := 0, amb := { clockOpen := 0, clockPass := 0 }
      pSubPacket := [1, 1, 0, 0, 0, 0, 1, 0, 7] }]

/-- `gapRun` hands out eleven bytes as unbroken, and nothing was written to nine of them. -/
theorem not_unbroken_intact_gap :
    ¬ ∀ o ∈ (receiverMachine Unit).outputs (Traced.fresh Unit 100 0 .RUN_TO_COMPLETION) gapRun,
      ∀ x ∈ o.handed, x.frame.mBroken = false → x.Intact := by
  intro h
  have hgap : (((receiverMachine Unit).outputs (Traced.fresh Unit 100 0 .RUN_TO_COMPLETION)
      gapRun).flatMap (·.handed)).any (fun x => x.frame.mBroken = false ∧ x.frame.mFrameSize = 11 ∧
        x.frame.pFrameData.all fun block => (block.cell 1).isNone) = true := by
    decide +kernel
  obtain ⟨x, hx, hgap⟩ := List.any_eq_true.mp hgap
  obtain ⟨o, ho, hx⟩ := List.mem_flatMap.mp hx
  obtain ⟨hbroken, hsize, hcell⟩ := of_decide_eq_true hgap
  obtain ⟨block, hblock, hwritten⟩ := (h o ho x hx hbroken).written
  have hsome : (block.cell 1).isSome := hwritten 1 (Nat.zero_le _) (by rw [hsize]; decide)
  rw [hblock] at hcell
  simp [Option.isNone_iff_eq_none.mp (by simpa using hcell)] at hsome

end ElasticFrame
