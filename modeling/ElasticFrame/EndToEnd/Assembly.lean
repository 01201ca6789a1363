import ElasticFrame.Receiver.Accounting
import ElasticFrame.Sender.Fragments

/-!
# Reassembly

What a bucket holds when all fragments accepted into it are fragments of one parcel: every copy
shows a slice of the parcel's data in its place, the allocated block is large enough for all of
it, and the stored size is right as soon as the fragment that closes the data is in.

- `Filled`: the invariant of such a bucket, whatever the order of the fragments
- `assembling_run`: it holds in every run
- `Filled.delivers`: a complete bucket is handed out with what was given to `packAndSend`
-/

namespace ElasticFrame

open ElasticFrame.Lib

/-! ## §1 Sizes in a parcel -/

namespace Parcel

variable (P : Parcel)

/-- The fragment that carries the data behind the type1 fragments. -/
def closing : Fragment := if P.split then P.type3 else P.type2

/-- After this fragment the stored size is right. Without any data behind the type1 fragments it is
    right from the start. -/
def Closes (f : Fragment) : Prop := f = P.closing ∨ (P.split = false ∧ P.rest = [])

/-- A type1 fragment is the closing one only when nothing is behind the type1 fragments. -/
theorem closes_type1 {p : ℕ} (h : P.Closes (P.type1 p)) : P.split = false ∧ P.rest = [] := by
  rcases h with hclosing | hempty
  · have hkind : P.type1 p ≠ P.closing := by
      unfold closing
      split <;> simp [type1, type2, type3]
    exact absurd hclosing hkind
  · exact hempty

/-- The type2 fragment is the closing one only when there is no type3 fragment. -/
theorem closes_type2 (h : P.Closes P.type2) : P.split = false := by
  rcases h with hclosing | ⟨hsplit, -⟩
  · cases hsplit : P.split with
    | true => simp [closing, hsplit, type2, type3] at hclosing
    | false => rfl
  · exact hsplit

/-- Without a type3 fragment the type2 fragment has the rest. -/
theorem tail_of_not_split (hsplit : P.split = false) : P.tail = P.rest := by
  simp [tail, hsplit]

theorem closing_mem : P.closing ∈ P.fragments := by
  rw [P.mem_fragments, closing]
  split
  case isTrue hsplit => exact Or.inr (Or.inl ⟨hsplit, rfl⟩)
  case isFalse => exact Or.inr (Or.inr rfl)

/-- The closing fragment holds the rest of the data, behind the type1 fragments. -/
theorem closing_spec : P.closing.fragmentNo.toNat = P.full ∧ P.closing.data = P.rest := by
  unfold closing
  split
  case isTrue hsplit => exact ⟨P.type3_position hsplit, rfl⟩
  case isFalse hsplit =>
    have hsplit : P.split = false := by simpa using hsplit
    constructor
    · show P.last.toNat = P.full
      rw [P.last_toNat, hsplit]
      rfl
    · exact P.tail_of_not_split hsplit

theorem type1_position {p : ℕ} (hp : p < P.full) : (P.type1 p).fragmentNo.toNat = p := by
  have hlt : P.full + P.split.toNat < 65535 := P.last_lt
  show (UInt16.ofNat p).toNat = p
  rw [UInt16.toNat_ofNat']
  exact Nat.mod_eq_of_lt (by omega)

/-- The data is the type1 payloads and the rest. -/
theorem payload_length : P.payload.length = P.size * P.full + P.rest.length := by
  have hfills := P.fills
  rw [P.rest_length, Nat.mul_comm]
  omega

/-- The rest is no longer than a type1 payload. -/
theorem rest_length_le : P.rest.length ≤ P.size := by
  have hle := P.rest_le
  rw [P.rest_length]
  omega

/-- Sizes of a parcel are far from wrapping. -/
theorem sizeT_eq {p n : ℕ} (hp : p ≤ 65535) (hn : n < 65536) :
    sizeT (P.size * p + n) = P.size * p + n := by
  have hsize := P.size_lt
  have hmul : P.size * p ≤ 65535 * 65535 := Nat.mul_le_mul (by omega) hp
  apply sizeT_of_lt
  omega

theorem last_le : P.last.toNat ≤ 65535 := Nat.le_of_lt_succ P.last.toNat_lt

/-- The announced count is not zero when there is a type3 fragment. -/
private theorem last_sub_one (hsplit : P.split = true) :
    sizeT (P.last.toNat + (2 ^ 64 - 1)) = P.full := by
  have hlast := P.last_toNat
  rw [hsplit] at hlast
  have hlast : P.last.toNat = P.full + 1 := hlast
  have hne : P.last ≠ 0 := by
    intro hzero
    rw [hzero] at hlast
    exact absurd hlast (Nat.succ_ne_zero _).symm
  rw [(sizeT_sub_one hne).1, hlast, Nat.add_sub_cancel]

/-- A fragment is copied to its place. -/
theorem insertPointer_eq {f : Fragment} (hf : f ∈ P.fragments) :
    f.insertPointer P.size = P.size * f.fragmentNo.toNat := by
  have hwrap : ∀ n : UInt16, sizeT (P.size * n.toNat) = P.size * n.toNat := fun n =>
    P.sizeT_eq (n := 0) (Nat.le_of_lt_succ n.toNat_lt) (by decide)
  rcases P.mem_fragments.mp hf with ⟨p, hp, rfl⟩ | ⟨hsplit, rfl⟩ | rfl
  · exact hwrap _
  · exact hwrap _
  · show sizeT ((UInt16.ofNat P.size).toNat * P.last.toNat) = _
    rw [P.size_toNat]
    exact hwrap _

/-- The type2 header announces the size of its data. -/
theorem hSizeOfData_eq : P.type2Header.hSizeOfData.toNat = P.tail.length := by
  show (UInt16.ofNat P.tail.length).toNat = _
  rw [UInt16.toNat_ofNat']
  exact Nat.mod_eq_of_lt P.tail_length_lt

/-- The size that the type3 fragment leads to. -/
theorem type3_size (hsplit : P.split = true) :
    sizeT (P.size * sizeT (P.last.toNat + (2 ^ 64 - 1)) + P.rest.length) = P.payload.length := by
  have hrest := P.rest_length_le
  have hsize := P.size_lt
  have hlt : P.full + P.split.toNat < 65535 := P.last_lt
  rw [P.last_sub_one hsplit, P.sizeT_eq (by omega) (by omega), P.payload_length]

/-- The size that the type2 fragment leads to, when there is no type3 fragment. -/
theorem type2_size (hsplit : P.split = false) :
    sizeT (P.size * P.last.toNat + P.type2Header.hSizeOfData.toNat) = P.payload.length := by
  rw [P.hSizeOfData_eq, P.sizeT_eq P.last_le P.tail_length_lt, P.last_toNat, hsplit,
    P.tail_of_not_split hsplit, P.payload_length]
  rfl

/-- **Whatever fragment comes first, enough is allocated.** -/
theorem payload_le_reserve {f : Fragment} (hf : f ∈ P.fragments) :
    P.payload.length ≤ f.reserve := by
  have hpayload := P.payload_length
  have hrest := P.rest_length_le
  have hlast := P.last_toNat
  have hlt : P.full + P.split.toNat < 65535 := P.last_lt
  rcases P.mem_fragments.mp hf with ⟨p, hp, rfl⟩ | ⟨hsplit, rfl⟩ | rfl
  · -- a type1 fragment asks for a full piece at every position
    show _ ≤ sizeT ((P.type1 p).data.length * (P.last.toNat + 1))
    have hmul : P.size * (P.full + 1) ≤ P.size * (P.last.toNat + 1) :=
      Nat.mul_le_mul_left _ (by omega)
    rw [P.type1_length hp, ← Nat.add_zero (P.size * _), P.sizeT_eq (by omega) (by decide)]
    rw [Nat.mul_succ] at hmul
    omega
  · show _ ≤ sizeT ((UInt16.ofNat P.size).toNat * sizeT (P.last.toNat + (2 ^ 64 - 1)) +
      P.rest.length)
    rw [P.size_toNat, P.type3_size hsplit]
  · show _ ≤ sizeT ((UInt16.ofNat P.size).toNat * P.last.toNat + P.type2Header.hSizeOfData.toNat)
    rw [P.size_toNat]
    cases hsplit : P.split with
    | true =>
      -- the last position is behind the rest
      rw [P.hSizeOfData_eq, P.sizeT_eq P.last_le P.tail_length_lt, hlast, hsplit]
      show _ ≤ P.size * (P.full + 1) + _
      rw [Nat.mul_succ]
      omega
    | false => exact (P.type2_size hsplit).ge

/-- The stored size when the fragment that closes the data opens the bucket. -/
theorem opened_size {f : Fragment} (hf : f ∈ P.fragments) (hcloses : P.Closes f) :
    (f.newBucketData true).mFrameSize = P.payload.length := by
  rcases P.mem_fragments.mp hf with ⟨p, hp, rfl⟩ | ⟨hsplit, rfl⟩ | rfl
  · obtain ⟨hsplit, hempty⟩ := P.closes_type1 hcloses
    show sizeT ((P.type1 p).data.length * P.last.toNat) = _
    rw [P.type1_length hp, ← Nat.add_zero (P.size * _), P.sizeT_eq P.last_le (by decide),
      P.last_toNat, hsplit, P.payload_length, hempty]
    rfl
  · show sizeT ((UInt16.ofNat P.size).toNat * sizeT (P.last.toNat + (2 ^ 64 - 1)) +
      P.rest.length) = _
    rw [P.size_toNat, P.type3_size hsplit]
  · show sizeT ((UInt16.ofNat P.size).toNat * P.last.toNat + P.type2Header.hSizeOfData.toNat) = _
    rw [P.size_toNat, P.type2_size (P.closes_type2 hcloses)]

/-- An added fragment leaves the stored size or makes it right; the closing one makes it right
    unless it was right from the start. -/
theorem filled_size {f : Fragment} (hf : f ∈ P.fragments) (n : ℕ) :
    f.fillFrameSize P.size n = P.payload.length ∨
      (f.fillFrameSize P.size n = n ∧ (P.Closes f → P.split = false ∧ P.rest = [])) := by
  rcases P.mem_fragments.mp hf with ⟨p, hp, rfl⟩ | ⟨hsplit, rfl⟩ | rfl
  · exact Or.inr ⟨rfl, P.closes_type1⟩
  · exact Or.inl (P.type3_size hsplit)
  · show (if P.type2Header.hSizeOfData = 0 then n else sizeT (P.size * P.last.toNat +
        P.type2Header.hSizeOfData.toNat)) = _ ∨
      ((if P.type2Header.hSizeOfData = 0 then n else sizeT (P.size * P.last.toNat +
        P.type2Header.hSizeOfData.toNat)) = _ ∧ _)
    have htail := P.hSizeOfData_eq
    split
    case isTrue hzero =>
      -- an empty type2 fragment leaves the size to the others
      rw [hzero] at htail
      have htail : P.tail = [] := List.length_eq_zero_iff.mp htail.symm
      refine Or.inr ⟨rfl, fun hcloses => ?_⟩
      have hsplit := P.closes_type2 hcloses
      exact ⟨hsplit, (P.tail_of_not_split hsplit).symm.trans htail⟩
    case isFalse hsome =>
      have hsplit : P.split = false := by
        by_contra hsplit
        have hsplit : P.split = true := by simpa using hsplit
        exact hsome (UInt16.toNat_inj.mp (by simp [htail, tail, hsplit]))
      exact Or.inl (P.type2_size hsplit)

end Parcel

/-! ## §2 The memory of a bucket -/

/-- A bucket with these fragments of a parcel. -/
structure Filled (P : Parcel) (b : Bucket) (fs : List Fragment) : Prop where
  size : b.mFragmentSize = P.size
  memory : ∃ d block, b.mBucketData = some d ∧ d.pFrameData = some block ∧
    P.payload.length ≤ block.size ∧
    (∀ f ∈ fs, block.Shows P.payload (P.size * f.fragmentNo.toNat)
      (P.size * f.fragmentNo.toNat + f.data.length)) ∧
    ((∃ f ∈ fs, P.Closes f) → d.mFrameSize = P.payload.length)

namespace Filled

variable {P : Parcel}

/-- A bucket just opened is filled with its fragment. -/
theorem opened (r : Receiver) {f : Fragment} (hf : f ∈ P.fragments) (lFromSource : UInt8)
    {amb : Ambient} (halloc : amb.allocates = true) :
    Filled P (r.openedWith f lFromSource amb) [f] := by
  -- the allocator gave the block, and the data of the fragment was copied into it
  have hblock : (f.newBucketData amb.allocates).pFrameData = some (Block.alloc f.reserve) := by
    rw [halloc]
    cases f <;> rfl
  have hpos : sizeT (f.fragmentSize * f.fragmentNo.toNat) = P.size * f.fragmentNo.toNat := by
    rw [(P.uniform hf).2.2]
    exact P.sizeT_eq (n := 0) (Nat.le_of_lt_succ f.fragmentNo.toNat_lt) (by decide)
  refine ⟨(P.uniform hf).2.2, { f.newBucketData amb.allocates with
      pFrameData := some ((Block.alloc f.reserve).copy (P.size * f.fragmentNo.toNat) f.data) },
    _, ?_, rfl, P.payload_le_reserve hf, ?_, ?_⟩
  · rw [Receiver.openedWith, hpos, Bucket.copy_mBucketData]
    simp [Receiver.openedBucket, hblock]
  · intro g hg
    obtain rfl := List.mem_singleton.mp hg
    exact Block.shows_copy _ fun x hx => P.slice hf hx
  · rintro ⟨g, hg, hcloses⟩
    obtain rfl := List.mem_singleton.mp hg
    rw [halloc]
    exact P.opened_size hf hcloses

/-- A bucket that a fragment was added to is filled with it. -/
theorem added {r : Receiver} {f : Fragment} {fs : List Fragment}
    (h : Filled P (r.mBucketList f.slot) fs) (hf : f ∈ P.fragments) (hne : fs ≠ []) :
    Filled P (r.filledBucket f) (fs ++ [f]) := by
  obtain ⟨d, block, hdata, hblock, hroom, hshows, hsize⟩ := h.memory
  obtain ⟨-, -, -, -, -, hfragmentSize, -⟩ := r.filledBucket_common f
  have hpos : f.insertPointer (r.mBucketList f.slot).mFragmentSize =
      P.size * f.fragmentNo.toNat := by
    rw [h.size]
    exact P.insertPointer_eq hf
  refine ⟨hfragmentSize.trans h.size, f.fill P.size d,
    block.copy (P.size * f.fragmentNo.toNat) f.data, ?_, ?_, hroom, ?_, ?_⟩
  · rw [r.filledBucket_data f, hdata, h.size]
    rfl
  · rw [h.size] at hpos
    simp [Fragment.fill, hblock, hpos]
  · intro g hg
    rcases List.mem_append.mp hg with hg | hg
    · exact (hshows g hg).copy fun x hx => P.slice hf hx
    · obtain rfl := List.mem_singleton.mp hg
      exact Block.shows_copy _ fun x hx => P.slice hf hx
  · rintro ⟨g, hg, hcloses⟩
    show f.fillFrameSize P.size d.mFrameSize = _
    rcases P.filled_size hf d.mFrameSize with hright | ⟨hkept, hclosed⟩
    · exact hright
    · -- the size was right before
      rw [hkept]
      apply hsize
      rcases List.mem_append.mp hg with hg | hg
      · exact ⟨g, hg, hcloses⟩
      · obtain rfl := List.mem_singleton.mp hg
        obtain ⟨g', hg'⟩ := List.exists_mem_of_ne_nil _ hne
        exact ⟨g', hg', Or.inr (hclosed hcloses)⟩

end Filled

/-- The record of a bucket is right, and it holds what was accepted into it if that is of this
    parcel. -/
def Assembling {τ : Type} (P : Parcel) (i : Slot) (b : Bucket) (accepted : List (Arrival τ)) :
    Prop :=
  Recorded i b accepted ∧
    ((∀ f ∈ fragments accepted, f ∈ P.fragments) → Filled P b (fragments accepted))

/-- Unpacking keeps that. -/
theorem assembling_unpacked {τ : Type} {P : Parcel} {s : Traced τ} (h : s.InUse (Assembling P))
    {a : Arrival τ} {f : Fragment} (hpacket : Fragment.ofPacket a.pSubPacket = some f) :
    (s.unpacked a f).InUse (Assembling P) := by
  apply h.unpacked
  · intro _ _ halloc hplaced
    rw [Assembling, Recorded, fragments_singleton hpacket]
    refine ⟨accounted_opened s.receiver f a.lFromSource a.amb hplaced, fun hall => ?_⟩
    exact Filled.opened s.receiver (hall f List.mem_cons_self) a.lFromSource halloc
  · rintro - hsame hpos hof hnew ⟨⟨hacc, hmeta⟩, hfilled⟩
    rw [Assembling, Recorded, fragments_concat hpacket]
    have hadded := accounted_added hacc hsame hpos hof hnew
    refine ⟨⟨hadded, metadata_added hadded hmeta⟩, fun hall => ?_⟩
    have hbefore := hfilled fun g hg => hall g (List.mem_append_left _ hg)
    exact hbefore.added (hall f (List.mem_append_right _ List.mem_cons_self)) hacc.ne_nil

/-- **Every bucket of every run holds what was accepted into it.** -/
theorem assembling_run {τ : Type} (P : Parcel) (B H : UInt32) (mode : EFPReceiverMode)
    (es : List (Event τ)) :
    ((receiverMachine τ).run (Traced.fresh τ B H mode) es).InUse (Assembling P) :=
  Traced.inUse_run B H mode fun _ _ _ _ _ hpacket h => assembling_unpacked h hpacket

/-! ## §3 Complete buckets -/

section Complete

variable {P : Parcel} {b : Bucket} {fs : List Fragment} (hacc : Accounted b fs)
  (hall : ∀ f ∈ fs, f ∈ P.fragments)

include hacc hall

/-- The bucket announces the count of the parcel. -/
theorem Accounted.mOfFragmentNo_eq : b.mOfFragmentNo = P.last := by
  obtain ⟨f, hf⟩ := List.exists_mem_of_ne_nil _ hacc.ne_nil
  rw [← (hacc.same f hf).2]
  exact (P.uniform (hall f hf)).2.1

/-- **A bucket is complete when all fragments of its parcel are in.** -/
theorem Accounted.complete_iff_all : b.complete = true ↔ ∀ f ∈ P.fragments, f ∈ fs := by
  have hof := hacc.mOfFragmentNo_eq hall
  have hplaced : ∀ f ∈ fs, f.fragmentNo ≤ b.mOfFragmentNo := by
    intro f hf
    rw [hof]
    exact (P.position_le (hall f hf)).1
  rw [hacc.complete_iff hplaced]
  constructor
  · intro hpositions f hf
    obtain ⟨g, hg, hsame⟩ := hpositions f.fragmentNo (by
      rw [hof]
      exact (P.position_le hf).1)
    -- positions tell the fragments of a parcel apart
    obtain rfl : g = f := P.position_inj (hall g hg) hf hsame
    exact hg
  · -- every position up to the count has a fragment of the parcel
    intro hevery p hp
    rw [hof] at hp
    have hle : p.toNat < P.fragments.length := by
      rw [P.fragments_length, ← P.last_toNat]
      exact Nat.lt_succ_of_le (UInt16.le_iff_toNat_le.mp hp)
    have hget := List.getElem?_eq_getElem hle
    refine ⟨P.fragments[p.toNat], hevery _ (List.getElem_mem hle), ?_⟩
    exact UInt16.toNat_inj.mp (P.fragment_position hget)

/-- **The data of a complete bucket is that of the parcel.** -/
theorem Filled.whole (h : Filled P b fs) (hcomplete : b.complete = true) :
    ∃ d block, b.mBucketData = some d ∧ d.pFrameData = some block ∧
      d.mFrameSize = P.payload.length ∧ P.payload.length ≤ block.size ∧
      block.read P.payload.length = P.payload.map some := by
  obtain ⟨d, block, hdata, hblock, hroom, hshows, hsize⟩ := h.memory
  have hevery := (hacc.complete_iff_all hall).mp hcomplete
  refine ⟨d, block, hdata, hblock, hsize ⟨_, hevery _ P.closing_mem, Or.inl rfl⟩, hroom, ?_⟩
  -- the type1 payloads, one after the other
  have hfull : ∀ p ≤ P.full, block.Shows P.payload 0 (P.size * p) := by
    intro p
    induction p with
    | zero =>
      intro _ x _ hx
      exact absurd hx (Nat.not_lt_zero x)
    | succ p ih =>
      intro hp
      have hown := hshows _ (hevery _ (P.mem_fragments.mpr (Or.inl ⟨p, hp, rfl⟩)))
      rw [P.type1_position hp, P.type1_length hp, ← Nat.mul_succ] at hown
      exact (ih (Nat.le_of_succ_le hp)).append hown
  -- and the rest behind them
  have hclosing := hshows _ (hevery _ P.closing_mem)
  rw [P.closing_spec.1, P.closing_spec.2, ← P.payload_length] at hclosing
  exact ((hfull P.full le_rfl).append hclosing).read

end Complete

/-! ## §4 Delivery -/

/-- What the receiver hands to its callback is what was given to `packAndSend`. -/
structure Call.DeliveredAs (c : Call) (frame : SuperFrame) : Prop where
  whole : frame.mBroken = false
  data : ∃ block, frame.pFrameData = some block ∧ frame.mFrameSize = c.rPacket.length ∧
    c.rPacket.length ≤ block.size ∧ block.read c.rPacket.length = c.rPacket.map some
  pts : frame.mPts = c.lPts
  dts : frame.mDts = c.lDts
  code : frame.mCode = c.lCode
  content : frame.mDataContent = c.lDataContent
  stream : frame.mStreamID = c.lStreamID
  flags : frame.mFlags = c.lFlags &&& 0xf0

/-- The values in the type2 fragment of a call are those of the call. -/
theorem Sender.type2_values {s : Sender} {c : Call} (haccepts : s.Accepts c) :
    (s.parcel c haccepts.size).type2Header.hPts = c.lPts ∧
      (s.parcel c haccepts.size).type2.mDts = c.lDts ∧
      (s.parcel c haccepts.size).type2Header.hCode = c.lCode ∧
      (s.parcel c haccepts.size).type2Header.hDataContent = c.lDataContent ∧
      (s.parcel c haccepts.size).type2Header.hStreamID = c.lStreamID ∧
      (s.parcel c haccepts.size).type2Header.hFrameType &&& 0xf0 = c.lFlags &&& 0xf0 := by
  have hdiff := haccepts.diff
  refine ⟨rfl, ?_, rfl, rfl, rfl, ?_⟩
  · -- the difference of the time stamps fits 32 bits
    have hlow : (c.lPts - c.lDts).toUInt32.toNat = (c.lPts - c.lDts).toNat := by
      rw [UInt64.toNat_toUInt32]
      exact Nat.mod_eq_of_lt (Nat.lt_of_lt_of_le hdiff (by decide))
    have hback : (c.lPts - c.lDts).toUInt32.toUInt64 = c.lPts - c.lDts := by
      apply UInt64.toNat_inj.mp
      rw [UInt32.toNat_toUInt64, hlow]
    show (if (c.lPts - c.lDts).toUInt32.toNat = UINT32_MAX then UINT64_MAX
      else c.lPts - (c.lPts - c.lDts).toUInt32.toUInt64) = _
    rw [if_neg (by omega), hback]
    grind
  · show (Frametype.type2.value ||| c.lFlags &&& 0xf0) &&& 0xf0 = _
    apply UInt8.toBitVec_inj.mp
    show (2#8 ||| c.lFlags.toBitVec &&& 0xf0#8) &&& 0xf0#8 = c.lFlags.toBitVec &&& 0xf0#8
    rw [BitVec.and_or_distrib_right, BitVec.and_assoc]
    exact BitVec.zero_or

/-- **A complete bucket is handed out with what was given to `packAndSend`.** -/
theorem Assembling.delivers {τ : Type} {T : Transmission} {k : ℕ} {i : Slot} {b : Bucket}
    {accepted : List (Arrival τ)} (h : Assembling (T.parcel k) i b accepted)
    (hall : ∀ f ∈ fragments accepted, f ∈ (T.parcel k).fragments) (hcomplete : b.complete = true)
    {d : SuperFrame} (hdata : b.mBucketData = some d) :
    (T.calls k).DeliveredAs (b.assemble d) := by
  obtain ⟨⟨hacc, hmeta⟩, hfilled⟩ := h
  obtain ⟨d', block, hdata', hblock, hsize, hroom, hread⟩ :=
    (hfilled hall).whole hacc hall hcomplete
  obtain rfl := Option.some.inj (hdata'.symm.trans hdata)
  -- the type2 fragment is in, and the values of the bucket are its values
  have htype2 := (hacc.complete_iff_all hall).mp hcomplete _ (T.parcel k).type2_mem
  obtain ⟨hpts, hdts, hcode, hcontent, hstream, hflags⟩ := hmeta _ _ htype2
  obtain ⟨vpts, vdts, vcode, vcontent, vstream, vflags⟩ := Sender.type2_values (T.accepts k)
  exact
    { whole := by simpa [Bucket.assemble, Bucket.complete] using hcomplete
      data := ⟨block, hblock, hsize, hroom, hread⟩
      pts := hpts.trans vpts
      dts := hdts.trans vdts
      code := hcode.trans vcode
      content := hcontent.trans vcontent
      stream := hstream.trans vstream
      flags := hflags.trans vflags }

end ElasticFrame
