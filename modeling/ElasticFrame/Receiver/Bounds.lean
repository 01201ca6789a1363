import ElasticFrame.Receiver.Store

/-!
# Bounds of a Bucket

The size of a bucket's superframe is fixed by the fragment that opens the bucket. Fragments that
are added later bring their own lengths and sizes, and no unpack function compares them with what
was allocated. This file says exactly which fragments stay inside.

- `Fragment.room`: the bytes that a fragment allocates when it opens a bucket, in exact integers
- `Fragment.reach`: the bytes that a fragment needs in a bucket that another one opened
- `Traced.Fits`: the condition on one fragment and the state it arrives in
- `boundsKept_iff`: along a run, nothing leaves its bounds exactly when every fragment fits

The last section has the smallest failing input: two type1 fragments of one superframe, the first
with one byte of data and the second with four.
-/

namespace ElasticFrame

open ElasticFrame.Lib

/-! ## §1 Room and reach -/

namespace Fragment

/-- The bytes that this fragment asks for when it opens a bucket. -/
def room : Fragment → ℕ
  | type1 h d => d.length * (h.hOfFragmentNo.toNat + 1)
  | type2 h _ => h.hType1PacketSize.toNat * h.hOfFragmentNo.toNat + h.hSizeOfData.toNat
  | type3 h d => h.hType1PacketSize.toNat * (h.hOfFragmentNo.toNat - 1) + d.length

/-- The end of what this fragment writes, or claims as frame size, in a bucket opened by a fragment
    whose type1 payloads have `size` bytes. -/
def reach (f : Fragment) (size : ℕ) : ℕ :=
  match f with
  | type1 h d => if d.length = 0 then 0 else size * h.hFragmentNo.toNat + d.length
  | type2 h _ =>
      if h.hSizeOfData = 0 then 0
      else max h.hType1PacketSize.toNat size * h.hOfFragmentNo.toNat + h.hSizeOfData.toNat
  | type3 h d => size * (h.hOfFragmentNo.toNat - 1) + d.length

/-- The data of a type2 fragment has the announced size. -/
def Proper : Fragment → Prop
  | type2 h d => d.length = h.hSizeOfData.toNat
  | _ => True

/-- A fragment unpacked from a packet has the announced size, and no more data than the packet. -/
theorem proper_of_ofPacket {p : List UInt8} {f : Fragment} (h : ofPacket p = some f) :
    f.Proper ∧ f.data.length ≤ p.length := by
  unfold ofPacket at h
  simp only [] at h
  split at h
  case isTrue =>
    obtain rfl := Option.some.inj h
    exact ⟨trivial, by simp [fragmentType1, data]⟩
  case isFalse =>
  split at h
  case isTrue hsize =>
    obtain rfl := Option.some.inj h
    have hlen : ((p.drop ElasticFrameType2.size).take
        (ElasticFrameType2.ofBytes p).hSizeOfData.toNat).length =
        (ElasticFrameType2.ofBytes p).hSizeOfData.toNat := by
      rw [List.length_take, List.length_drop]
      have := hsize.2
      omega
    refine ⟨hlen, ?_⟩
    show List.length (List.take _ _) ≤ _
    rw [hlen]
    have := hsize.2
    omega
  case isFalse =>
  split at h
  case isTrue =>
    obtain rfl := Option.some.inj h
    exact ⟨trivial, by simp [fragmentType3, data]⟩
  case isFalse => exact absurd h (by simp)

/-- `hOfFragmentNo - 1` in a type3 header, as an `int` that is converted to `size_t`. -/
private theorem sizeT_pred {n : UInt16} (hn : (n - 1).toNat < UINT16_MAX) :
    sizeT (n.toNat + (2 ^ 64 - 1)) = n.toNat - 1 ∧ (n - 1).toNat = n.toNat - 1 := by
  have hne : n ≠ 0 := by
    rintro rfl
    exact absurd hn (by decide)
  exact sizeT_sub_one hne

/-- The room is what is allocated, as long as it is a `size_t`. -/
theorem reserve_eq_room {f : Fragment} (hbit : f.fragmentNo.toNat < UINT16_MAX)
    (hroom : f.room < 2 ^ 64) : f.reserve = f.room := by
  cases f with
  | type1 h d => exact sizeT_of_lt hroom
  | type2 h d => exact sizeT_of_lt hroom
  | type3 h d =>
    have hpred := sizeT_pred hbit
    show sizeT (_ * sizeT _ + _) = _
    rw [hpred.1]
    exact sizeT_of_lt hroom

/-- Rooms of short packets are far from the limit. -/
theorem room_lt {f : Fragment} (hshort : f.data.length < 2 ^ 48) : f.room < 2 ^ 64 := by
  -- counts and sizes in a header have 16 bits
  cases f with
  | type1 h d =>
    have hof := h.hOfFragmentNo.toNat_lt
    calc d.length * (h.hOfFragmentNo.toNat + 1)
        ≤ d.length * 2 ^ 16 := Nat.mul_le_mul_left _ hof
      _ < 2 ^ 48 * 2 ^ 16 := Nat.mul_lt_mul_of_pos_right hshort (by decide)
  | type2 h d =>
    have hof := h.hOfFragmentNo.toNat_lt
    have hsize := h.hType1PacketSize.toNat_lt
    have hdata := h.hSizeOfData.toNat_lt
    have hmul : h.hType1PacketSize.toNat * h.hOfFragmentNo.toNat ≤ 2 ^ 16 * 2 ^ 16 :=
      Nat.mul_le_mul hsize.le hof.le
    show _ * _ + _ < _
    omega
  | type3 h d =>
    have hof := h.hOfFragmentNo.toNat_lt
    have hsize := h.hType1PacketSize.toNat_lt
    have hshort : d.length < 2 ^ 48 := hshort
    have hmul : h.hType1PacketSize.toNat * (h.hOfFragmentNo.toNat - 1) ≤ 2 ^ 16 * 2 ^ 16 :=
      Nat.mul_le_mul hsize.le (by omega)
    show _ * _ + _ < _
    omega

/-- A fragment that fits reaches no further than its own frame size and its own copy say. -/
theorem fill_le_reach {f : Fragment} (hproper : f.Proper) (hbit : f.fragmentNo.toNat < UINT16_MAX)
    (size frameSize : ℕ) :
    (f.data.length = 0 ∨ f.insertPointer size + f.data.length ≤ f.reach size) ∧
      (f.fillFrameSize size frameSize = frameSize ∨
        f.fillFrameSize size frameSize ≤ f.reach size) := by
  cases f with
  | type1 h d =>
    refine ⟨?_, Or.inl rfl⟩
    rcases Nat.eq_zero_or_pos d.length with hempty | hsome
    · exact Or.inl hempty
    · right
      show sizeT (size * h.hFragmentNo.toNat) + d.length ≤ reach (type1 h d) size
      rw [reach, if_neg hsome.ne']
      exact Nat.add_le_add_right (sizeT_le _) _
  | type2 h d =>
    have hlen : d.length = h.hSizeOfData.toNat := hproper
    by_cases hzero : h.hSizeOfData = 0
    · refine ⟨Or.inl ?_, Or.inl (if_pos hzero)⟩
      show d.length = 0
      rw [hlen, hzero]
      rfl
    · have hreach : reach (type2 h d) size =
          max h.hType1PacketSize.toNat size * h.hOfFragmentNo.toNat + h.hSizeOfData.toNat :=
        if_neg hzero
      rw [hreach]
      constructor
      · right
        show sizeT (h.hType1PacketSize.toNat * h.hOfFragmentNo.toNat) + d.length ≤ _
        rw [hlen]
        exact Nat.add_le_add_right
          ((sizeT_le _).trans (Nat.mul_le_mul_right _ (le_max_left _ _))) _
      · right
        show (if h.hSizeOfData = 0 then frameSize else sizeT (_ * _ + _)) ≤ _
        rw [if_neg hzero]
        exact (sizeT_le _).trans (Nat.add_le_add_right
          (Nat.mul_le_mul_right _ (le_max_right _ _)) _)
  | type3 h d =>
    have hpred := sizeT_pred hbit
    constructor
    · right
      show sizeT (size * (h.hOfFragmentNo - 1).toNat) + d.length ≤ _
      rw [hpred.2]
      exact Nat.add_le_add_right (sizeT_le _) _
    · right
      show sizeT (size * sizeT _ + d.length) ≤ _
      rw [hpred.1]
      exact sizeT_le _

/-- Without wrapping, the frame size and the copy reach exactly as far as `reach` says. -/
theorem reach_le_of_fill {f : Fragment} (hproper : f.Proper)
    (hbit : f.fragmentNo.toNat < UINT16_MAX) {size frameSize limit : ℕ} (hsize : size < 2 ^ 48)
    (hshort : f.data.length < 2 ^ 48)
    (hcopy : f.data.length = 0 ∨ f.insertPointer size + f.data.length ≤ limit)
    (hframe : f.fillFrameSize size frameSize ≤ limit) : f.reach size ≤ limit := by
  -- a short payload size times a position is far from wrapping
  have hwrap : ∀ n : UInt16, size * n.toNat ≤ 2 ^ 48 * (2 ^ 16 - 1) := fun n =>
    Nat.mul_le_mul hsize.le (by have := n.toNat_lt; omega)
  cases f with
  | type1 h d =>
    have hpos := hwrap h.hFragmentNo
    show (if d.length = 0 then 0 else size * h.hFragmentNo.toNat + d.length) ≤ limit
    split
    case isTrue => exact Nat.zero_le _
    case isFalse hsome =>
      have hcopy : sizeT (size * h.hFragmentNo.toNat) + d.length ≤ limit :=
        hcopy.resolve_left hsome
      rwa [sizeT_of_lt (by omega)] at hcopy
  | type2 h d =>
    have hof := hwrap h.hOfFragmentNo
    have hlen : d.length = h.hSizeOfData.toNat := hproper
    have hdata := h.hSizeOfData.toNat_lt
    have hown : h.hType1PacketSize.toNat * h.hOfFragmentNo.toNat ≤ 2 ^ 16 * 2 ^ 16 :=
      Nat.mul_le_mul h.hType1PacketSize.toNat_lt.le h.hOfFragmentNo.toNat_lt.le
    show (if h.hSizeOfData = 0 then 0 else _) ≤ limit
    split
    case isTrue => exact Nat.zero_le _
    case isFalse hsome =>
      have hframe : sizeT (size * h.hOfFragmentNo.toNat + h.hSizeOfData.toNat) ≤ limit := by
        have hframe : (if h.hSizeOfData = 0 then frameSize else sizeT (_ * _ + _)) ≤ limit := hframe
        rwa [if_neg hsome] at hframe
      rw [sizeT_of_lt (by omega)] at hframe
      have hcopy : sizeT (h.hType1PacketSize.toNat * h.hOfFragmentNo.toNat) + d.length ≤ limit := by
        apply hcopy.resolve_left
        show ¬ d.length = 0
        rw [hlen]
        exact fun h0 => hsome (UInt16.toNat_inj.mp h0)
      rw [sizeT_of_lt (by omega), hlen] at hcopy
      -- the frame size counts with the bucket's payload size, the copy with the fragment's own
      rcases le_total h.hType1PacketSize.toNat size with hle | hle
      · rw [max_eq_right hle]
        exact hframe
      · rw [max_eq_left hle]
        exact hcopy
  | type3 h d =>
    have hpred := sizeT_pred hbit
    have hof : size * (h.hOfFragmentNo.toNat - 1) ≤ 2 ^ 48 * (2 ^ 16 - 2) :=
      Nat.mul_le_mul hsize.le (by have := h.hOfFragmentNo.toNat_lt; omega)
    have hshort : d.length < 2 ^ 48 := hshort
    have hframe : sizeT (size * sizeT (h.hOfFragmentNo.toNat + (2 ^ 64 - 1)) + d.length) ≤ limit :=
      hframe
    rw [hpred.1, sizeT_of_lt (by omega)] at hframe
    exact hframe

/-- What the opening fragment writes and claims itself lies in its room. -/
theorem open_le_room {f : Fragment} (hproper : f.Proper)
    (hbit : f.fragmentNo.toNat < UINT16_MAX) (hplaced : f.misplaced = false) :
    sizeT (f.fragmentSize * f.fragmentNo.toNat) + f.data.length ≤ f.room := by
  -- the wrapped position is not behind the exact one
  refine (Nat.add_le_add_right (sizeT_le _) _).trans ?_
  cases f with
  | type1 h d =>
    have hpos : h.hFragmentNo.toNat ≤ h.hOfFragmentNo.toNat := by
      have hnot : ¬ h.hOfFragmentNo < h.hFragmentNo := by simpa [misplaced] using hplaced
      exact UInt16.le_iff_toNat_le.mp (UInt16.not_lt.mp hnot)
    calc d.length * h.hFragmentNo.toNat + d.length
        = d.length * (h.hFragmentNo.toNat + 1) := (Nat.mul_succ _ _).symm
      _ ≤ d.length * (h.hOfFragmentNo.toNat + 1) := Nat.mul_le_mul_left _ (by omega)
  | type2 h d =>
    have hlen : d.length = h.hSizeOfData.toNat := hproper
    exact (congrArg _ hlen).le
  | type3 h d =>
    show h.hType1PacketSize.toNat * (h.hOfFragmentNo - 1).toNat + d.length ≤ _
    rw [(sizeT_pred hbit).2]
    exact le_rfl

end Fragment

/-! ## §2 The condition and what it protects -/

/-- The fragment gets as far as the bit set of its bucket: it opens the bucket, or it belongs to
    the superframe in the bucket and to its fragment count. -/
def Receiver.reaches (r : Receiver) (f : Fragment) : Prop :=
  if (r.mBucketList f.slot).mActive then
    f.hSuperFrameNo = (r.mBucketList f.slot).mSavedSuperFrameNo ∧
      f.fragmentNo ≤ (r.mBucketList f.slot).mOfFragmentNo ∧
      f.hOfFragmentNo = (r.mBucketList f.slot).mOfFragmentNo
  else r.candidate f.hSuperFrameNo ≠ (r.mBucketList f.slot).mDeliveryOrder

theorem Receiver.reaches_of_idle {r : Receiver} {f : Fragment}
    (hidle : (r.mBucketList f.slot).mActive = false)
    (hnew : r.candidate f.hSuperFrameNo ≠ (r.mBucketList f.slot).mDeliveryOrder) :
    r.reaches f := by
  simpa [reaches, hidle] using hnew

theorem Receiver.reaches_iff {r : Receiver} {f : Fragment}
    (hactive : (r.mBucketList f.slot).mActive = true) :
    r.reaches f ↔ f.hSuperFrameNo = (r.mBucketList f.slot).mSavedSuperFrameNo ∧
      f.fragmentNo ≤ (r.mBucketList f.slot).mOfFragmentNo ∧
      f.hOfFragmentNo = (r.mBucketList f.slot).mOfFragmentNo := by
  simp only [reaches, if_pos hactive]

/-- A fragment that is refused for its place does not get as far. -/
theorem Receiver.not_reaches_of_bad {r : Receiver} {f : Fragment}
    (hactive : (r.mBucketList f.slot).mActive = true)
    (hbad : (r.mBucketList f.slot).mOfFragmentNo < f.fragmentNo ∨
      f.hOfFragmentNo ≠ (r.mBucketList f.slot).mOfFragmentNo) : ¬ r.reaches f := by
  rw [reaches_iff hactive]
  rintro ⟨-, hpos, hof⟩
  rcases hbad with hbad | hbad
  · exact absurd hpos (UInt16.not_le.mpr hbad)
  · exact hbad hof

/-- The fragment is new to a bucket that another one opened. -/
def Receiver.adds (r : Receiver) (f : Fragment) : Prop :=
  (r.mBucketList f.slot).mActive = true ∧ r.reaches f ∧
    f.fragmentNo ∉ (r.mBucketList f.slot).mHaveReceivedFragment

variable {τ : Type}

/-- The fragment that opened the bucket. -/
def Traced.opener (s : Traced τ) (i : Slot) : Option Fragment :=
  (s.accepted i).head?.bind fun a => Fragment.ofPacket a.pSubPacket

/-- **The condition.** A fragment that gets as far as the bit set has a position below 65535; one
    that opens a bucket asks for less than `2 ^ 64` bytes; and one that is added reaches no further
    than the room that the opening fragment asked for. -/
structure Traced.Fits (s : Traced τ) (f : Fragment) : Prop where
  bit : s.receiver.reaches f → f.fragmentNo.toNat < UINT16_MAX
  size : s.receiver.reaches f → (s.receiver.mBucketList f.slot).mActive = false → f.room < 2 ^ 64
  space : s.receiver.adds f → ∀ g ∈ s.opener f.slot, f.reach g.fragmentSize ≤ g.room

/-- A bit index and a copy into a superframe are in range. -/
def Access.BucketInBounds : Access → Prop
  | .received index => index.toNat < UINT16_MAX
  | .copy pos len allocated => Block.InBounds pos len allocated
  | _ => True

/-- The size that is stored for delivery is within what is allocated. -/
def SuperFrame.SizeInBounds (d : SuperFrame) : Prop :=
  d.mFrameSize ≤ (d.pFrameData.map Block.size).getD 0

/-- Every superframe in use has its size within what is allocated. -/
def Receiver.SizesInBounds (r : Receiver) : Prop :=
  ∀ i d, (r.mBucketList i).mActive = true → (r.mBucketList i).mBucketData = some d →
    d.SizeInBounds

/-- The invariant of a bucket: what was allocated is the room of the fragment that opened it, and
    the stored size is within. -/
def Roomy (_ : Slot) (b : Bucket) (accepted : List (Arrival τ)) : Prop :=
  ∃ a g, accepted.head? = some a ∧ Fragment.ofPacket a.pSubPacket = some g ∧
    b.mFragmentSize = g.fragmentSize ∧
    ∃ d, b.mBucketData = some d ∧ (d.pFrameData.map Block.size).getD 0 = g.room ∧ d.SizeInBounds

theorem Bucket.allocated_eq {b : Bucket} {d : SuperFrame} (h : b.mBucketData = some d) :
    b.allocated = (d.pFrameData.map Block.size).getD 0 := by
  rw [Bucket.allocated, h]

/-- The superframe of a fresh opening. -/
private theorem openedBucket_data (r : Receiver) (f : Fragment) (lFromSource : UInt8)
    {amb : Ambient} (halloc : amb.allocates = true) :
    ∃ d, (r.openedBucket f lFromSource amb).mBucketData = some d ∧
      d.pFrameData = some (Block.alloc f.reserve) ∧
      d.mFrameSize = match f with
        | .type1 h data => sizeT (data.length * h.hOfFragmentNo.toNat)
        | f => f.reserve := by
  refine ⟨f.newBucketData amb.allocates, rfl, ?_, ?_⟩
  · rw [halloc]
    cases f <;> rfl
  · rw [halloc]
    cases f <;> rfl

/-! ## §3 One fragment -/

section OneFragment

variable {s : Traced τ} {a : Arrival τ} {f : Fragment}

/-- What opening gives: room as asked for, and a copy inside it. -/
private theorem opened_roomy (hpacket : Fragment.ofPacket a.pSubPacket = some f)
    (hbit : f.fragmentNo.toNat < UINT16_MAX) (hroom : f.room < 2 ^ 64)
    (halloc : a.amb.allocates = true) (hplaced : f.misplaced = false) :
    Roomy f.slot (s.receiver.openedWith f a.lFromSource a.amb) [a] ∧
      Block.InBounds (sizeT (f.fragmentSize * f.fragmentNo.toNat)) f.data.length
        (s.receiver.openedBucket f a.lFromSource a.amb).allocated := by
  have hproper := (Fragment.proper_of_ofPacket hpacket).1
  obtain ⟨d, hdata, hblock, hsize⟩ :=
    openedBucket_data s.receiver f a.lFromSource halloc
  have hreserve := Fragment.reserve_eq_room hbit hroom
  constructor
  · refine ⟨a, f, rfl, hpacket, rfl,
      { d with pFrameData := d.pFrameData.map fun block =>
          block.copy (sizeT (f.fragmentSize * f.fragmentNo.toNat)) f.data }, ?_, ?_, ?_⟩
    · rw [Receiver.openedWith, Bucket.copy_mBucketData, hdata]
      rfl
    · rw [hblock]
      exact hreserve
    · show d.mFrameSize ≤ _
      rw [hblock, hsize]
      show _ ≤ f.reserve
      cases f with
      | type1 h data =>
        rw [hreserve]
        exact (sizeT_le _).trans (Nat.mul_le_mul_left _ (Nat.le_succ _))
      | type2 h data => exact le_rfl
      | type3 h data => exact le_rfl
  · right
    rw [Bucket.allocated_eq hdata, hblock]
    show _ ≤ f.reserve
    rw [hreserve]
    exact Fragment.open_le_room hproper hbit hplaced

/-- What adding gives: the copy is in the room of the opener, and so is the size. -/
private theorem added_roomy (hpacket : Fragment.ofPacket a.pSubPacket = some f)
    (hbit : f.fragmentNo.toNat < UINT16_MAX)
    (hroomy : Roomy f.slot (s.receiver.mBucketList f.slot) (s.accepted f.slot))
    (hspace : ∀ g ∈ s.opener f.slot, f.reach g.fragmentSize ≤ g.room) :
    Roomy f.slot (s.receiver.filledBucket f) (s.accepted f.slot ++ [a]) ∧
      Block.InBounds (f.insertPointer (s.receiver.mBucketList f.slot).mFragmentSize)
        f.data.length (s.receiver.mBucketList f.slot).allocated := by
  have hproper := (Fragment.proper_of_ofPacket hpacket).1
  obtain ⟨a₀, g, hhead, hg, hsize, d, hdata, hallocated, hbound⟩ := hroomy
  have hreach : f.reach g.fragmentSize ≤ g.room := by
    apply hspace
    rw [Traced.opener, hhead]
    exact hg
  obtain ⟨hcopy, hframe⟩ := Fragment.fill_le_reach hproper hbit g.fragmentSize d.mFrameSize
  constructor
  · have hkept := ((s.receiver.filledBucket_common f).2.2.2.2.2.1).trans hsize
    have hfilled : (s.receiver.filledBucket f).mBucketData = some (f.fill g.fragmentSize d) := by
      rw [s.receiver.filledBucket_data f, hdata, hsize]
      rfl
    refine ⟨a₀, g, ?_, hg, hkept, f.fill g.fragmentSize d, hfilled, ?_, ?_⟩
    · rw [List.head?_append, hhead]
      rfl
    · rw [f.fill_allocated]
      exact hallocated
    · show f.fillFrameSize g.fragmentSize d.mFrameSize ≤ _
      rw [f.fill_allocated, hallocated]
      rcases hframe with hsame | hle
      · rw [hsame, ← hallocated]
        exact hbound
      · exact hle.trans hreach
  · rw [Bucket.allocated_eq hdata, hallocated, hsize]
    rcases hcopy with hempty | hle
    · exact Or.inl hempty
    · exact Or.inr (hle.trans hreach)

/-- The accesses of an added fragment stay in bounds exactly when its copy does. -/
private theorem fillAccesses_bounds (hproper : f.Proper) (r : Receiver) :
    (∀ x ∈ r.fillAccesses f, x.BucketInBounds) ↔
      Block.InBounds (f.insertPointer (r.mBucketList f.slot).mFragmentSize) f.data.length
        (r.mBucketList f.slot).allocated := by
  cases f with
  | type1 h d => exact List.forall_mem_singleton
  | type3 h d => exact List.forall_mem_singleton
  | type2 h d =>
    have hlen : d.length = h.hSizeOfData.toNat := hproper
    by_cases hzero : h.hSizeOfData = 0
    · -- without data nothing is copied
      have hempty : (Fragment.type2 h d).data.length = 0 := by
        show d.length = 0
        rw [hlen, hzero]
        rfl
      simp [Receiver.fillAccesses, hzero, Access.BucketInBounds, Block.InBounds, hempty]
    · simp [Receiver.fillAccesses, hzero, Access.BucketInBounds]

/-- **A fragment that fits stays in bounds**, and the buckets keep their room. -/
theorem Traced.Fits.keeps (hfits : s.Fits f) (hroomy : s.InUse Roomy)
    (hpacket : Fragment.ofPacket a.pSubPacket = some f) :
    (∀ x ∈ (s.receiver.unpackFragment f a.lFromSource a.amb).accesses, x.BucketInBounds) ∧
      (s.unpacked a f).InUse Roomy := by
  have hproper := (Fragment.proper_of_ofPacket hpacket).1
  constructor
  · have hstep := s.receiver.unpackFragment_step f a.lFromSource a.amb
    generalize s.receiver.unpackFragment f a.lFromSource a.amb = u at hstep ⊢
    cases hstep with
    | tooOld hidle hold => exact List.forall_mem_nil _
    | refused hidle hnew hwhy =>
      have hreaches := Receiver.reaches_of_idle hidle hnew
      simpa [Access.BucketInBounds] using hfits.bit hreaches
    | opened hidle hnew halloc hplaced =>
      -- the copy of the opening fragment lies in the room it asked for
      have hreaches := Receiver.reaches_of_idle hidle hnew
      have hbit := hfits.bit hreaches
      have hcopy := (opened_roomy (s := s) hpacket hbit (hfits.size hreaches hidle) halloc
        hplaced).2
      simpa [Access.BucketInBounds] using ⟨hbit, hcopy⟩
    | outOfResources hactive hother => exact List.forall_mem_nil _
    | outOfBounds hactive hsame hbad => exact List.forall_mem_nil _
    | duplicate hactive hsame hpos hof hdup =>
      have hreaches := (Receiver.reaches_iff hactive).mpr ⟨hsame, hpos, hof⟩
      simpa [Access.BucketInBounds] using hfits.bit hreaches
    | added hactive hsame hpos hof hnew =>
      have hreaches := (Receiver.reaches_iff hactive).mpr ⟨hsame, hpos, hof⟩
      have hbit := hfits.bit hreaches
      have hcopy := (added_roomy hpacket hbit (hroomy f.slot hactive)
        (hfits.space ⟨hactive, hreaches, hnew⟩)).2
      exact List.forall_mem_cons.mpr ⟨hbit, (fillAccesses_bounds hproper _).mpr hcopy⟩
  · apply hroomy.unpacked
    · intro hidle hnew halloc hplaced
      have hreaches := Receiver.reaches_of_idle hidle hnew
      exact (opened_roomy hpacket (hfits.bit hreaches) (hfits.size hreaches hidle) halloc
        hplaced).1
    · intro hactive hsame hpos hof hnew hroomy
      have hreaches := (Receiver.reaches_iff hactive).mpr ⟨hsame, hpos, hof⟩
      exact (added_roomy hpacket (hfits.bit hreaches) hroomy
        (hfits.space ⟨hactive, hreaches, hnew⟩)).1

/-- **A short fragment that stays in bounds fits.** -/
theorem Traced.fits_of_bounds (hroomy : s.InUse Roomy)
    (hsmall : s.InUse fun _ b _ => b.mFragmentSize < 2 ^ 48)
    (hpacket : Fragment.ofPacket a.pSubPacket = some f) (hshort : a.pSubPacket.length < 2 ^ 48)
    (haccesses : ∀ x ∈ (s.receiver.unpackFragment f a.lFromSource a.amb).accesses,
      x.BucketInBounds)
    (hsizes : (s.unpacked a f).receiver.SizesInBounds) : s.Fits f := by
  obtain ⟨hproper, hlen⟩ := Fragment.proper_of_ofPacket hpacket
  have hdata : f.data.length < 2 ^ 48 := hlen.trans_lt hshort
  unfold Traced.unpacked at hsizes
  have hstep := s.receiver.unpackFragment_step f a.lFromSource a.amb
  generalize s.receiver.unpackFragment f a.lFromSource a.amb = u at hstep haccesses hsizes
  have hbit : s.receiver.reaches f → f.fragmentNo.toNat < UINT16_MAX := by
    intro hreaches
    -- every branch that reaches the bit set says so in its accesses
    cases hstep with
    | tooOld hidle hold => exact absurd hold (by simpa [Receiver.reaches, hidle] using hreaches)
    | refused hidle hnew hwhy => exact haccesses (.received f.fragmentNo) (by simp)
    | opened hidle hnew halloc hplaced => exact haccesses (.received f.fragmentNo) (by simp)
    | outOfResources hactive hother =>
      exact absurd ((Receiver.reaches_iff hactive).mp hreaches).1 hother
    | outOfBounds hactive hsame hbad =>
      exact absurd hreaches (Receiver.not_reaches_of_bad hactive hbad)
    | duplicate hactive hsame hpos hof hdup =>
      exact haccesses (.received f.fragmentNo) (by simp)
    | added hactive hsame hpos hof hnew =>
      exact haccesses (.received f.fragmentNo) (by simp)
  refine ⟨hbit, fun _ _ => Fragment.room_lt hdata, ?_⟩
  rintro ⟨hactive, hreaches, hnew⟩ g hg
  have hbit := hbit hreaches
  obtain ⟨a₀, g', hhead, hg', hsize, d, hd, hallocated, hbound⟩ := hroomy f.slot hactive
  have hopener : g' = g := by
    rw [Traced.opener, hhead, Option.bind_some, hg'] at hg
    exact Option.some.inj hg
  subst hopener
  have hfragment : (s.receiver.mBucketList f.slot).mFragmentSize < 2 ^ 48 := hsmall f.slot hactive
  rw [hsize] at hfragment
  -- a fragment that is added shows its copy and its frame size
  cases hstep with
  | tooOld hidle hold => exact absurd hidle (by simp [hactive])
  | refused hidle _ hwhy => exact absurd hidle (by simp [hactive])
  | opened hidle _ halloc hplaced => exact absurd hidle (by simp [hactive])
  | outOfResources _ hother => exact absurd ((Receiver.reaches_iff hactive).mp hreaches).1 hother
  | outOfBounds _ hsame hbad => exact absurd hreaches (Receiver.not_reaches_of_bad hactive hbad)
  | duplicate _ hsame hpos hof hdup => exact absurd hdup hnew
  | added _ hsame hpos hof _ =>
    have hcopy := (fillAccesses_bounds hproper s.receiver).mp
      (List.forall_mem_cons.mp haccesses).2
    have hframe : f.fillFrameSize g'.fragmentSize d.mFrameSize ≤ g'.room := by
      have hkept := (s.receiver.filledBucket_common f).1.trans hactive
      have hfilled : (s.receiver.filledBucket f).mBucketData = some (f.fill g'.fragmentSize d) := by
        rw [s.receiver.filledBucket_data f, hd, hsize]
        rfl
      have hbound := hsizes f.slot (f.fill g'.fragmentSize d) (by simpa using hkept)
        (by simpa using hfilled)
      unfold SuperFrame.SizeInBounds at hbound
      rw [f.fill_allocated, hallocated] at hbound
      exact hbound
    rw [Bucket.allocated_eq hd, hallocated, hsize] at hcopy
    exact Fragment.reach_le_of_fill hproper hbit hfragment hdata hcopy hframe

end OneFragment

/-! ## §4 Steps and runs -/

/-- The condition on a step. -/
def Traced.StepFits (s : Traced τ) (e : Event τ) : Prop :=
  ∀ a f, e = .receiveFragment a → Fragment.ofPacket a.pSubPacket = some f → s.Fits f

/-- What a step keeps: every bit index and every copy is in range, and so is the size of every
    superframe in use or handed out. -/
structure Traced.StepKeepsBounds (s : Traced τ) (e : Event τ) : Prop where
  accesses : ∀ x ∈ (s.step e).2.accesses, x.BucketInBounds
  handed : ∀ x ∈ (s.step e).2.handed, x.frame.SizeInBounds
  sizes : (s.step e).1.receiver.SizesInBounds

/-- Reads of a packet are no accesses to a bucket. -/
private theorem packetReads_bounds (p : List UInt8) (header : ℕ) (f : Fragment) :
    ∀ x ∈ packetReads p header f, x.BucketInBounds := by
  simp [packetReads, Access.BucketInBounds]

/-- Room for every bucket in use keeps every stored size within it. -/
private theorem sizes_of_roomy {s : Traced τ} (h : s.InUse Roomy) : s.receiver.SizesInBounds := by
  intro i d hactive hdata
  obtain ⟨_, _, _, _, _, d', hdata', _, hbound⟩ := h i hactive
  obtain rfl := Option.some.inj (hdata'.symm.trans hdata)
  exact hbound

section Steps

variable {s : Traced τ} (hs : s.receiver.Coherent) (hroomy : s.InUse Roomy) {e : Event τ}

include hs hroomy

/-- **Step lemma**: a step whose fragment fits keeps the bounds and the invariant. -/
theorem Traced.stepKeepsBounds (hfits : s.StepFits e) :
    s.StepKeepsBounds e ∧ (s.step e).1.InUse Roomy := by
  have hkeep : ∀ a f, e = .receiveFragment a → Fragment.ofPacket a.pSubPacket = some f →
      (s.unpacked a f).InUse Roomy :=
    fun a f he hpacket => ((hfits a f he hpacket).keeps hroomy hpacket).2
  have hafter : (s.step e).1.InUse Roomy := Traced.step_inUse hs hroomy hkeep
  refine ⟨⟨?_, ?_, sizes_of_roomy hafter⟩, hafter⟩
  · have hparts := s.step_parts e
    generalize s.step e = out at hparts ⊢
    cases hparts with
    | refused a message accesses hmessage hwhy haccesses =>
      intro x hx
      obtain rfl := List.mem_singleton.mp (haccesses hx)
      trivial
    | cut a hpacket hsize d hd => simp [Access.BucketInBounds]
    | fragment a f header hpacket d hd =>
      intro x hx
      rcases List.mem_append.mp hx with hx | hx
      · rcases List.mem_cons.mp hx with rfl | hx
        · trivial
        · exact packetReads_bounds _ _ _ x hx
      · exact ((hfits a f rfl hpacket).keeps hroomy hpacket).1 x hx
    | runToCompletion lTimeNow d hd => exact List.forall_mem_nil _
    | worker lTimeNow d hd => exact List.forall_mem_nil _
  · intro x hx
    obtain ⟨b, d, ⟨_, _, _, _, _, d', hdata', _, hbound⟩, hdata, hframe, _⟩ :=
      Traced.step_handed_inUse hs hroomy hkeep hx
    obtain rfl := Option.some.inj (hdata'.symm.trans hdata)
    rw [hframe]
    exact hbound

/-- **Converse**: a step of a running receiver on a short packet that keeps the bounds had a
    fragment that fits. -/
theorem Traced.stepFits_of_keepsBounds (hrunning : s.receiver.Running)
    (hsmall : s.InUse fun _ b _ => b.mFragmentSize < 2 ^ 48)
    (hshort : ∀ a, e = .receiveFragment a → a.pSubPacket.length < 2 ^ 48)
    (hkeeps : s.StepKeepsBounds e) : s.StepFits e := by
  rintro a f rfl hpacket
  obtain ⟨haccesses, hhanded, hsizes⟩ := hkeeps
  obtain ⟨hstep, -, hhands⟩ := Traced.step_of_fragment hrunning hpacket
  rw [hstep] at hsizes
  rw [hhands] at hhanded
  -- the step shows the accesses of the unpacking, and its sizes in two ways
  refine Traced.fits_of_bounds hroomy hsmall hpacket (hshort a rfl) ?_ ?_
  · exact fun x hx => haccesses x (Traced.accesses_of_fragment hrunning hpacket x hx)
  · -- a bucket in use after the unpacking is handed out in this step or is still there
    intro i sf hactive hdata
    have hs' : (s.unpacked a f).receiver.Coherent := hs.unpack f a.lFromSource a.amb
    have hpass := Receiver.runIfToCompletion_passes hs'.slotsDistinct a.amb.clockPass
    rcases Traced.pass_fate (s := s.unpacked a f) hpass hactive hdata with
      ⟨x, hx, -, hframe, -⟩ | hstays
    · have hbound := hhanded x hx
      rw [hframe] at hbound
      exact hbound
    · rw [← hstays] at hactive hdata
      exact hsizes i sf hactive hdata

end Steps

section Runs

variable (B H : UInt32) (mode : EFPReceiverMode)

/-- Payload sizes of short packets are short. -/
private theorem small_run {es : List (Event τ)}
    (hshort : ∀ a, .receiveFragment a ∈ es → a.pSubPacket.length < 2 ^ 48) :
    ((receiverMachine τ).run (Traced.fresh τ B H mode) es).InUse
      fun _ b _ => b.mFragmentSize < 2 ^ 48 := by
  apply Traced.inUse_run
  intro s a f ha _ hpacket h
  apply h.unpacked
  · intro _ _ _ _
    have hlen := hshort a ha
    have hdata := (Fragment.proper_of_ofPacket hpacket).2
    show f.fragmentSize < 2 ^ 48
    cases f with
    | type1 h d => exact hdata.trans_lt hlen
    | type2 h d => exact h.hType1PacketSize.toNat_lt.trans (by decide)
    | type3 h d => exact h.hType1PacketSize.toNat_lt.trans (by decide)
  · intro _ _ _ _ _ hsmall
    rw [(Receiver.filledBucket_common _ f).2.2.2.2.2.1]
    exact hsmall

/-- **Run lemma**: while every fragment fits, every bucket in use has its room. -/
theorem roomy_run {es : List (Event τ)}
    (hfits : ∀ s e, (receiverMachine τ).Takes (Traced.fresh τ B H mode) es s e → s.StepFits e) :
    ((receiverMachine τ).run (Traced.fresh τ B H mode) es).InUse Roomy := by
  have hrun := (receiverMachine τ).run_invariant
    (I := fun s => s.receiver.Coherent ∧ s.InUse Roomy) (C := Traced.StepFits)
    (s := Traced.fresh τ B H mode) (w := es)
    ⟨Receiver.coherent_new B H mode, fun i hactive => by
      simp [Traced.fresh, Receiver.new] at hactive⟩
    (fun s e hfits hI =>
      ⟨Traced.coherent_step hI.1 e, (Traced.stepKeepsBounds hI.1 hI.2 hfits).2⟩) hfits
  exact hrun.2

/-- **Hostile input and bounds.** In every run, whatever the packets, a run whose fragments all fit
    never leaves a bound; and when the packets are shorter than `2 ^ 48` bytes, a run that never
    leaves a bound consists of fragments that fit. -/
theorem boundsKept_iff (es : List (Event τ)) :
    ((∀ s e, (receiverMachine τ).Takes (Traced.fresh τ B H mode) es s e → s.StepFits e) →
      ∀ s e, (receiverMachine τ).Takes (Traced.fresh τ B H mode) es s e →
        s.StepKeepsBounds e) ∧
    ((∀ a, .receiveFragment a ∈ es → a.pSubPacket.length < 2 ^ 48) →
      (∀ s e, (receiverMachine τ).Takes (Traced.fresh τ B H mode) es s e →
        s.StepKeepsBounds e) →
      ∀ s e, (receiverMachine τ).Takes (Traced.fresh τ B H mode) es s e → s.StepFits e) := by
  constructor
  · rintro hfits s e htakes
    obtain ⟨pre, post, rfl, rfl⟩ := htakes
    have hprefix := fun s' e'
        (ht : (receiverMachine τ).Takes (Traced.fresh τ B H mode) pre s' e') =>
      hfits s' e' (Machine.Takes.of_append _ ht)
    have hroomy := roomy_run B H mode hprefix
    exact (Traced.stepKeepsBounds (coherent_run B H mode pre) hroomy
      (hfits _ e ⟨pre, post, rfl, rfl⟩)).1
  · intro hshort hkeeps
    -- induction on the run: the prefix fits, so the buckets have their room at its end
    induction es using List.reverseRecOn with
    | nil =>
      rintro s e ⟨pre, post, hsplit, -⟩
      exact absurd hsplit (by simp)
    | append_singleton es e ih =>
      have hprefix := ih (fun a ha => hshort a (List.mem_append_left _ ha))
        fun s' e' ht => hkeeps s' e' (Machine.Takes.of_append _ ht)
      intro s' e' htakes
      rcases (receiverMachine τ).takes_concat_iff.mp htakes with htakes | ⟨rfl, rfl⟩
      · exact hprefix s' e' htakes
      · apply Traced.stepFits_of_keepsBounds (coherent_run B H mode es)
          (roomy_run B H mode hprefix) (configured_run B H mode es).running
          (small_run B H mode fun a ha => hshort a (List.mem_append_left _ ha))
        · rintro a rfl
          exact hshort a (by simp)
        · exact hkeeps _ _ (Machine.takes_last _ _ _ _)

end Runs

/-- Two type1 fragments of one superframe: the first has one byte of data, so that the bucket gets
    two bytes; the second has four. -/
def overflowRun : List (Event Unit) :=
  [.receiveFragment
    { label := (), lFromSource := 0, amb := { clockOpen := 0, clockPass := 0 }
      pSubPacket := [1, 1, 0, 0, 0, 0, 1, 0, 7] },
   .receiveFragment
    { label := (), lFromSource := 0, amb := { clockOpen := 0, clockPass := 0 }
      pSubPacket := [1, 1, 0, 0, 1, 0, 1, 0, 7, 7, 7, 7] }]

/-- The second packet of `overflowRun` copies four bytes to offset 1 of a block of two. -/
theorem not_boundsKept_overflow :
    ¬ ∀ s e, (receiverMachine Unit).Takes (Traced.fresh Unit 100 0 .RUN_TO_COMPLETION)
      overflowRun s e → s.StepKeepsBounds e := by
  intro h
  have hcopy : Access.copy 1 4 2 ∈ ((receiverMachine Unit).outputs
      (Traced.fresh Unit 100 0 .RUN_TO_COMPLETION) overflowRun).flatMap (·.accesses) := by
    decide +kernel
  obtain ⟨o, ho, hcopy⟩ := List.mem_flatMap.mp hcopy
  obtain ⟨s, e, htakes, rfl⟩ := (receiverMachine Unit).mem_outputs_iff.mp ho
  exact absurd ((h s e htakes).accesses _ hcopy) (by simp [Access.BucketInBounds, Block.InBounds])

end ElasticFrame
