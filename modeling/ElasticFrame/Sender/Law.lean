import ElasticFrame.Sender.Fragments

/-!
# The Law of Fragmentation

How many packets of which kind a call emits, with what in their headers, and that a call emits all
of them or none.

- `FragmentationLaw`: what the packets of one superframe have to satisfy
- `Sender.fragmentation_law`: what a successful call emits satisfies it
- `Sender.all_or_nothing`: in every run of calls each one is refused without a trace, or emits a
  complete superframe under the next number
-/

namespace ElasticFrame

open ElasticFrame.Lib

/-! ## §1 The law -/

/-- The data in a packet: what stands behind the header that its first byte names. -/
def payloadOf (p : List UInt8) : List UInt8 :=
  if byteAt p 0 &&& 0x0f = Frametype.type2.value then p.drop ElasticFrameType2.size
  else p.drop ElasticFrameType1.size

/-- The superframe fits one type2 packet of this MTU. -/
def Uncut (M : ℕ) (lPacketSize : ℕ) : Prop := lPacketSize ≤ M - ElasticFrameType2.size

instance (M lPacketSize : ℕ) : Decidable (Uncut M lPacketSize) :=
  inferInstanceAs (Decidable (_ ≤ _))

/-- The number of type1 packets. -/
def type1Count (M : ℕ) (lPacketSize : ℕ) : ℕ :=
  if Uncut M lPacketSize then 0 else lPacketSize / (M - ElasticFrameType1.size)

/-- The size of the data behind the type1 packets. -/
def reminder (M : ℕ) (lPacketSize : ℕ) : ℕ :=
  lPacketSize - type1Count M lPacketSize * (M - ElasticFrameType1.size)

/-- The number of type3 packets: one if the rest does not fit a type2 packet. -/
def type3Count (M : ℕ) (lPacketSize : ℕ) : ℕ :=
  if M - ElasticFrameType2.size < reminder M lPacketSize then 1 else 0

/-- The packets of one superframe, as they have to be for this MTU, data and superframe number.
    The fields are compared as numbers, so none of them was truncated. -/
structure FragmentationLaw (M : ℕ) (rPacket : List UInt8) (lSuperFrameNo : UInt16)
    (packets : List (List UInt8)) : Prop where
  count : packets.length = type1Count M rPacket.length + type3Count M rPacket.length + 1
  type1 : ∀ i p, i < type1Count M rPacket.length → packets[i]? = some p →
    p.length = M ∧ ∃ h d, Fragment.ofPacket p = some (.type1 h d) ∧ h.hFragmentNo.toNat = i
  type3 : ∀ i p, type1Count M rPacket.length ≤ i → i + 1 < packets.length →
    packets[i]? = some p → ∃ h d, Fragment.ofPacket p = some (.type3 h d) ∧
      h.hType1PacketSize.toNat = M - ElasticFrameType1.size
  type2 : ∀ p, packets.getLast? = some p → ∃ h d, Fragment.ofPacket p = some (.type2 h d) ∧
    h.hSizeOfData.toNat = (payloadOf p).length ∧ h.hType1PacketSize.toNat =
      if Uncut M rPacket.length then rPacket.length else M - ElasticFrameType1.size
  size : ∀ p ∈ packets, p.length ≤ M
  payload : (packets.map payloadOf).flatten = rPacket
  uniform : ∀ p ∈ packets, ∃ f, Fragment.ofPacket p = some f ∧ f.hSuperFrameNo = lSuperFrameNo ∧
    f.hOfFragmentNo.toNat = packets.length - 1
  last_le : packets.length - 1 ≤ UINT16_MAX - 1

/-! ## §2 The packets of a parcel -/

/-- The data of a typed fragment is behind its header. -/
theorem payloadOf_toBytes {f : Fragment} (htyped : f.Typed) (padding : ElasticFrameType2.Padding) :
    payloadOf (f.toBytes padding) = f.data := by
  cases f with
  | type1 h d =>
    have hkind : byteAt (h.toBytes ++ d) 0 &&& 0x0f = Frametype.type1.value := htyped
    show payloadOf (h.toBytes ++ d) = d
    rw [payloadOf, hkind, if_neg (by decide), List.drop_left' (ElasticFrameType1.toBytes_length h)]
  | type2 h d =>
    have hkind : byteAt (h.toBytes padding ++ d) 0 &&& 0x0f = Frametype.type2.value := htyped.1
    show payloadOf (h.toBytes padding ++ d) = d
    rw [payloadOf, if_pos hkind, List.drop_left' (ElasticFrameType2.toBytes_length h padding)]
  | type3 h d =>
    have hkind : byteAt (h.toBytes ++ d) 0 &&& 0x0f = Frametype.type3.value := htyped
    have hlength : h.toBytes.length = ElasticFrameType1.size := ElasticFrameType3.toBytes_length h
    show payloadOf (h.toBytes ++ d) = d
    rw [payloadOf, hkind, if_neg (by decide), List.drop_left' hlength]

/-- Pieces of one size, taken one after the other, are a prefix. -/
theorem flatten_pieces (data : List UInt8) (size full : ℕ) :
    ((List.range full).map fun p => (data.drop (p * size)).take size).flatten =
      data.take (full * size) := by
  induction full with
  | zero => simp
  | succ full ih =>
    rw [List.range_succ, List.map_append, List.flatten_append, ih, Nat.succ_mul, List.take_add]
    simp

namespace Parcel

variable (P : Parcel)

/-- **The data of the fragments, in their order, is the data of the parcel.** -/
theorem data_flatten : (P.fragments.map Fragment.data).flatten = P.payload := by
  have hfull : ((List.range P.full).map fun p => (P.type1 p).data).flatten =
      P.payload.take (P.full * P.size) := flatten_pieces P.payload P.size P.full
  have hrest : P.payload.take (P.full * P.size) ++ P.rest = P.payload := List.take_append_drop _ _
  have htype2 : P.type2.data = P.tail := rfl
  have htype3 : P.type3.data = P.rest := rfl
  rw [fragments, List.map_append, List.map_append, List.flatten_append, List.flatten_append,
    List.map_map]
  show (((List.range P.full).map fun p => (P.type1 p).data).flatten ++ _) ++ _ = _
  rw [hfull]
  -- the rest is in the type3 fragment or in the type2 fragment
  cases hsplit : P.split with
  | true => simp [tail, hsplit, htype2, htype3, hrest]
  | false => simp [tail, hsplit, htype2, hrest]

theorem fragments_type1 {p : ℕ} (hp : p < P.full) : P.fragments[p]? = some (P.type1 p) := by
  rw [fragments, List.append_assoc, List.getElem?_append_left (by simpa using hp)]
  simp [hp]

theorem fragments_type3 {p : ℕ} (hlo : P.full ≤ p) (hhi : p + 1 < P.fragments.length) :
    P.split = true ∧ P.fragments[p]? = some P.type3 := by
  rw [P.fragments_length] at hhi
  cases hsplit : P.split with
  | false =>
    rw [hsplit] at hhi
    have hhi : p + 1 < P.full + 0 + 1 := hhi
    omega
  | true =>
    rw [hsplit] at hhi
    have hhi : p + 1 < P.full + 1 + 1 := hhi
    obtain rfl : p = P.full := by omega
    refine ⟨rfl, ?_⟩
    rw [fragments, List.append_assoc, List.getElem?_append_right (by simp)]
    simp [hsplit]

theorem fragments_getLast : P.fragments.getLast? = some P.type2 := by simp [fragments]

section Lengths

variable (padding : ElasticFrameType2.Padding)

theorem type1_toBytes_length {p : ℕ} (hp : p < P.full) :
    ((P.type1 p).toBytes padding).length = ElasticFrameType1.size + P.size := by
  show (_ ++ (P.type1 p).data).length = _
  rw [List.length_append, ElasticFrameType1.toBytes_length, P.type1_length hp]

theorem type2_toBytes_length :
    (P.type2.toBytes padding).length = ElasticFrameType2.size + P.tail.length := by
  show (_ ++ P.tail).length = _
  rw [List.length_append, ElasticFrameType2.toBytes_length]

theorem type3_toBytes_length :
    (P.type3.toBytes padding).length = ElasticFrameType3.size + P.rest.length := by
  show (_ ++ P.rest).length = _
  rw [List.length_append, ElasticFrameType3.toBytes_length]

end Lengths

end Parcel

/-! ## §3 What a successful call emits -/

namespace Sender

variable (s : Sender) (c : Call)

/-- The superframe fits when the law says so. -/
theorem single_iff_uncut : s.Single c ↔ Uncut s.mCurrentMTU.toNat c.rPacket.length := by
  have hmtu : 255 ≤ s.mCurrentMTU.toNat := s.mtu_ge
  show c.rPacket.length + 32 ≤ s.mCurrentMTU.toNat ↔ c.rPacket.length ≤ s.mCurrentMTU.toNat - 32
  omega

/-- The parcel of a call is cut as the law says. -/
theorem parcel_cut (hsize : c.rPacket.length ≤ s.limit) :
    (s.parcel c hsize).full = type1Count s.mCurrentMTU.toNat c.rPacket.length ∧
      (s.parcel c hsize).split.toNat = type3Count s.mCurrentMTU.toNat c.rPacket.length ∧
      (s.parcel c hsize).size = if Uncut s.mCurrentMTU.toNat c.rPacket.length then
        c.rPacket.length else s.mCurrentMTU.toNat - ElasticFrameType1.size := by
  have hsingle := s.single_iff_uncut c
  unfold type3Count reminder type1Count
  by_cases huncut : Uncut s.mCurrentMTU.toNat c.rPacket.length
  · have hfits : c.rPacket.length ≤ s.mCurrentMTU.toNat - ElasticFrameType2.size := huncut
    simp [parcel, hsingle, huncut, hfits]
  · have hfields : (s.parcel c hsize).full = s.pieces c ∧
        (s.parcel c hsize).split = s.needsType3 c ∧ (s.parcel c hsize).size = s.piece := by
      simp [parcel, hsingle, huncut]
    obtain ⟨hfull, hsplit, hpiece⟩ := hfields
    rw [hfull, hsplit, hpiece, if_neg huncut, if_neg huncut]
    refine ⟨rfl, ?_, rfl⟩
    show (decide (_ < _)).toNat = if _ < _ then 1 else 0
    rw [Bool.toNat, Bool.cond_decide]
    rfl

section Emitted

variable (hsize : c.rPacket.length ≤ s.limit) (padding : ElasticFrameType2.Padding)

/-- A superframe with type1 packets is cut. -/
private theorem cut_of_full {p : ℕ} (hp : p < (s.parcel c hsize).full) :
    ¬ Uncut s.mCurrentMTU.toNat c.rPacket.length := by
  intro huncut
  rw [(s.parcel_cut c hsize).1, type1Count, if_pos huncut] at hp
  exact absurd hp (Nat.not_lt_zero p)

/-- A superframe with a type3 packet is cut. -/
private theorem cut_of_split (hthird : (s.parcel c hsize).split = true) :
    ¬ Uncut s.mCurrentMTU.toNat c.rPacket.length := by
  intro huncut
  have hsingle := (s.single_iff_uncut c).mpr huncut
  simp [parcel, hsingle] at hthird

/-- The data of the type2 packet fits the MTU. -/
private theorem tail_le :
    (s.parcel c hsize).tail.length ≤ s.mCurrentMTU.toNat - ElasticFrameType2.size := by
  obtain ⟨hfull, hsplit, hpiece⟩ := s.parcel_cut c hsize
  have hpayload : (s.parcel c hsize).payload = c.rPacket := rfl
  cases hthird : (s.parcel c hsize).split with
  | true =>
    rw [Parcel.tail, if_pos hthird]
    exact Nat.zero_le _
  | false =>
    rw [Parcel.tail, hthird, if_neg Bool.false_ne_true]
    -- no type3 packet was needed
    have hfits : reminder s.mCurrentMTU.toNat c.rPacket.length ≤
        s.mCurrentMTU.toNat - ElasticFrameType2.size := by
      by_contra hneeded
      have hone : type3Count s.mCurrentMTU.toNat c.rPacket.length = 1 :=
        if_pos (Nat.not_le.mp hneeded)
      rw [hthird, hone] at hsplit
      exact absurd hsplit (by decide)
    have hreminder : (s.parcel c hsize).rest.length =
        reminder s.mCurrentMTU.toNat c.rPacket.length := by
      rw [Parcel.rest_length, hpayload, reminder, hfull]
      by_cases huncut : Uncut s.mCurrentMTU.toNat c.rPacket.length
      · simp [type1Count, huncut]
      · rw [hpiece, if_neg huncut]
    rw [hreminder]
    exact hfits

/-- A packet is no longer than the MTU; a type1 packet is exactly that long. -/
theorem packet_length {f : Fragment} (hf : f ∈ (s.parcel c hsize).fragments) :
    (f.toBytes padding).length ≤ s.mCurrentMTU.toNat ∧
      ((∃ h d, f = .type1 h d) → (f.toBytes padding).length = s.mCurrentMTU.toNat) := by
  have hmtu : 255 ≤ s.mCurrentMTU.toNat := s.mtu_ge
  obtain ⟨-, -, hpiece⟩ := s.parcel_cut c hsize
  -- a piece of a superframe that is cut is what the header leaves of the MTU
  have hcut : ¬ Uncut s.mCurrentMTU.toNat c.rPacket.length →
      (s.parcel c hsize).size = s.mCurrentMTU.toNat - 8 := by
    intro hcut
    rw [hpiece, if_neg hcut]
    rfl
  rcases (s.parcel c hsize).mem_fragments.mp hf with ⟨p, hp, rfl⟩ | ⟨hthird, rfl⟩ | rfl
  · have hlength := (s.parcel c hsize).type1_toBytes_length padding hp
    have hwhole : (((s.parcel c hsize).type1 p).toBytes padding).length =
        s.mCurrentMTU.toNat := by
      rw [hlength, hcut (s.cut_of_full c hsize hp)]
      exact Nat.add_sub_cancel' (Nat.le_trans (by decide) hmtu)
    exact ⟨hwhole.le, fun _ => hwhole⟩
  · have hlength := (s.parcel c hsize).type3_toBytes_length padding
    have hrest : (s.parcel c hsize).rest.length ≤ (s.parcel c hsize).size := by
      rw [Parcel.rest_length]
      exact Nat.sub_le_iff_le_add'.mpr (s.parcel c hsize).rest_le
    rw [hcut (s.cut_of_split c hsize hthird)] at hrest
    have hsize3 : ElasticFrameType3.size = 8 := rfl
    refine ⟨by omega, ?_⟩
    rintro ⟨h, d, hkind⟩
    exact absurd hkind (by simp [Parcel.type3])
  · have hlength := (s.parcel c hsize).type2_toBytes_length padding
    have htail := s.tail_le c hsize
    have hsize2 : ElasticFrameType2.size = 32 := rfl
    refine ⟨by omega, ?_⟩
    rintro ⟨h, d, hkind⟩
    exact absurd hkind (by simp [Parcel.type2])

/-- **The fragments of a call satisfy the law.** -/
theorem law_of_parcel :
    FragmentationLaw s.mCurrentMTU.toNat c.rPacket s.mSuperFrameNoGenerator
      ((s.parcel c hsize).packets padding) := by
  obtain ⟨hfull, hsplit, hpiece⟩ := s.parcel_cut c hsize
  have hlength : ((s.parcel c hsize).packets padding).length =
      (s.parcel c hsize).full + (s.parcel c hsize).split.toNat + 1 := by
    rw [Parcel.packets, List.length_map, Parcel.fragments_length]
  have hlast := (s.parcel c hsize).last_toNat
  have hlt : (s.parcel c hsize).full + (s.parcel c hsize).split.toNat < 65535 :=
    (s.parcel c hsize).last_lt
  have hread := fun f hf => (s.parcel c hsize).ofPacket_fragment (f := f) hf padding
  refine ⟨?_, ?_, ?_, ?_, ?_, ?_, ?_, ?_⟩
  · rw [hlength, hfull, hsplit]
  · intro i p hi hp
    rw [← hfull] at hi
    rw [Parcel.packets, List.getElem?_map, Parcel.fragments_type1 _ hi] at hp
    obtain rfl := Option.some.inj hp
    have hmem := List.mem_of_getElem? ((s.parcel c hsize).fragments_type1 hi)
    exact ⟨(s.packet_length c hsize padding hmem).2 ⟨_, _, rfl⟩, _, _, hread _ hmem,
      (s.parcel c hsize).fragment_position ((s.parcel c hsize).fragments_type1 hi)⟩
  · intro i p hlo hhi hp
    rw [← hfull] at hlo
    rw [Parcel.packets, List.length_map] at hhi
    obtain ⟨hthird, hget⟩ := (s.parcel c hsize).fragments_type3 hlo hhi
    rw [Parcel.packets, List.getElem?_map, hget] at hp
    obtain rfl := Option.some.inj hp
    refine ⟨_, _, hread _ (List.mem_of_getElem? hget), ?_⟩
    show (UInt16.ofNat (s.parcel c hsize).size).toNat = _
    rw [(s.parcel c hsize).size_toNat, hpiece, if_neg (s.cut_of_split c hsize hthird)]
  · intro p hp
    rw [Parcel.packets, List.getLast?_map, Parcel.fragments_getLast] at hp
    obtain rfl := Option.some.inj hp
    have hmem := (s.parcel c hsize).type2_mem
    refine ⟨_, _, hread _ hmem, ?_, ?_⟩
    · rw [payloadOf_toBytes ((s.parcel c hsize).typed hmem) padding]
      exact ((s.parcel c hsize).typed hmem).2
    · show (UInt16.ofNat (s.parcel c hsize).size).toNat = _
      rw [(s.parcel c hsize).size_toNat, hpiece]
  · intro p hp
    obtain ⟨f, hf, rfl⟩ := List.mem_map.mp hp
    exact (s.packet_length c hsize padding hf).1
  · have hdata : ((s.parcel c hsize).packets padding).map payloadOf =
        (s.parcel c hsize).fragments.map Fragment.data := by
      rw [Parcel.packets, List.map_map]
      exact List.map_congr_left fun f hf =>
        payloadOf_toBytes ((s.parcel c hsize).typed hf) padding
    rw [hdata]
    exact (s.parcel c hsize).data_flatten
  · intro p hp
    obtain ⟨f, hf, rfl⟩ := List.mem_map.mp hp
    refine ⟨f, hread f hf, ((s.parcel c hsize).uniform hf).1, ?_⟩
    rw [((s.parcel c hsize).uniform hf).2.1, hlast, hlength]
    rfl
  · show _ ≤ 65534
    omega

end Emitted

/-- What a successful call emits satisfies the law. -/
theorem law_of_success (lSetMTU lSuperFrameNo : UInt16) (mSendBufferEnd : List UInt8)
    (hmtu : UINT8_MAX ≤ lSetMTU.toNat) (c : Call)
    (hsuccess : ((used lSetMTU lSuperFrameNo mSendBufferEnd).packAndSendFromPtr c).message =
      .noError) :
    FragmentationLaw lSetMTU.toNat c.rPacket lSuperFrameNo
      ((used lSetMTU lSuperFrameNo mSendBufferEnd).packAndSendFromPtr c).packets := by
  have hspec := (used lSetMTU lSuperFrameNo mSendBufferEnd).packAndSendFromPtr_eq c
    (used_exact hmtu lSuperFrameNo mSendBufferEnd)
  have haccepts := hspec.2 hsuccess
  have hcurrent : (used lSetMTU lSuperFrameNo mSendBufferEnd).mCurrentMTU = lSetMTU :=
    new_mCurrentMTU hmtu
  have hlaw := (used lSetMTU lSuperFrameNo mSendBufferEnd).law_of_parcel c haccepts.size
    ((used lSetMTU lSuperFrameNo mSendBufferEnd).padding c)
  rw [hcurrent] at hlaw
  rw [hspec.1 haccepts]
  exact hlaw

/-- **Fragmentation law**: for every MTU from 255 on, every superframe number and whatever the last
    packet left in the buffer, the packets of a successful call are as many of each kind, with such
    headers and data, as the law says. -/
theorem fragmentation_law (lSetMTU lSuperFrameNo : UInt16) (mSendBufferEnd : List UInt8)
    (hmtu : UINT8_MAX ≤ lSetMTU.toNat) (c : Call)
    (hsuccess : ((used lSetMTU lSuperFrameNo mSendBufferEnd).packAndSendFromPtr c).message =
      .noError) :
    FragmentationLaw lSetMTU.toNat c.rPacket lSuperFrameNo
      ((used lSetMTU lSuperFrameNo mSendBufferEnd).packAndSendFromPtr c).packets :=
  law_of_success lSetMTU lSuperFrameNo mSendBufferEnd hmtu c hsuccess

/-- A call whose superframe is cut: two type1 packets and a type2 packet with the rest. -/
def cutCall : Call where
  rPacket := List.replicate 500 7
  lDataContent := 0x20
  lPts := 1
  lDts := 1
  lCode := 0
  lStreamID := 1
  lFlags := 0

theorem fragmentation_law_cutCall :
    FragmentationLaw 255 cutCall.rPacket 65535
      ((used 255 65535 []).packAndSendFromPtr cutCall).packets :=
  fragmentation_law 255 65535 [] (by decide) cutCall (by decide +kernel)

/-! ## §4 Runs of calls -/

/-- A sender as a machine: it reads calls, and reports a result and the packets that went to the
    send callback. -/
def machine : Machine Sender Call (ElasticFrameMessages × List (List UInt8)) where
  step s c :=
    let out := s.packAndSendFromPtr c
    (out.sender, out.message, out.packets)

/-- The number of successful calls of a run. -/
def successes (calls : List Call) : ℕ :=
  (machine.outputs s calls).countP fun out => out.1 = .noError

/-- What a call on a sender with this number can do. -/
theorem packAndSendFromPtr_outcome (lSetMTU lSuperFrameNo : UInt16) (mSendBufferEnd : List UInt8)
    (hmtu : UINT8_MAX ≤ lSetMTU.toNat) :
    let sender := used lSetMTU lSuperFrameNo mSendBufferEnd
    let out := sender.packAndSendFromPtr c
    (out.message ∈ refusals ∧ out.packets = [] ∧ out.sender = sender) ∨
      (out.message = .noError ∧
        FragmentationLaw lSetMTU.toNat c.rPacket lSuperFrameNo out.packets ∧
        ∃ buffer, out.sender = used lSetMTU (lSuperFrameNo + 1) buffer) := by
  intro sender out
  by_cases haccepts : sender.Accepts c
  · have hsent := (sender.packAndSendFromPtr_eq c
      (used_exact hmtu lSuperFrameNo mSendBufferEnd)).1 haccepts
    have hmessage : out.message = .noError := congrArg Packed.message hsent
    have hsender : out.sender = used lSetMTU (lSuperFrameNo + 1)
        (sender.type2Emitted c (sender.padding c)) := congrArg Packed.sender hsent
    exact Or.inr ⟨hmessage,
      law_of_success lSetMTU lSuperFrameNo mSendBufferEnd hmtu c hmessage, _, hsender⟩
  · obtain ⟨message, hmem, hout⟩ := sender.packAndSendFromPtr_refused c haccepts
    left
    show (sender.packAndSendFromPtr c).message ∈ _ ∧ (sender.packAndSendFromPtr c).packets = _ ∧
      (sender.packAndSendFromPtr c).sender = _
    rw [hout]
    exact ⟨hmem, rfl, rfl⟩

/-- The number of a sender after a run of calls counts the successful ones. -/
theorem run_eq (lSetMTU lSuperFrameNo : UInt16) (hmtu : UINT8_MAX ≤ lSetMTU.toNat)
    (calls : List Call) :
    let fresh := (new lSetMTU).setSuperFrameNo lSuperFrameNo
    ∃ buffer, machine.run fresh calls =
      used lSetMTU (lSuperFrameNo + UInt16.ofNat (fresh.successes calls)) buffer := by
  intro fresh
  induction calls using List.reverseRecOn with
  | nil =>
    refine ⟨[], (fresh_eq_used lSetMTU lSuperFrameNo).trans ?_⟩
    show _ = used lSetMTU (lSuperFrameNo + 0) []
    rw [UInt16.add_zero]
  | append_singleton calls c ih =>
    obtain ⟨buffer, ih⟩ := ih
    have hcount : fresh.successes (calls ++ [c]) = fresh.successes calls +
        if ((machine.run fresh calls).packAndSendFromPtr c).message = .noError then 1 else 0 := by
      unfold successes
      rw [Machine.outputs_concat, List.countP_append, List.countP_singleton]
      simp only [decide_eq_true_eq]
      rfl
    have hstep : machine.run fresh (calls ++ [c]) =
        ((machine.run fresh calls).packAndSendFromPtr c).sender := by
      rw [Machine.run_concat]
      rfl
    rw [hstep, hcount, ih]
    have hout := packAndSendFromPtr_outcome c lSetMTU
      (lSuperFrameNo + UInt16.ofNat (fresh.successes calls)) buffer hmtu
    rcases hout with ⟨hmem, -, hsender⟩ | ⟨hmessage, -, next, hsender⟩
    · have hfailed : ¬ ((used lSetMTU (lSuperFrameNo +
          UInt16.ofNat (fresh.successes calls)) buffer).packAndSendFromPtr c).message =
            .noError := by
        intro hmessage
        rw [hmessage] at hmem
        exact absurd hmem (by decide)
      exact ⟨buffer, by rw [hsender, if_neg hfailed, Nat.add_zero]⟩
    · refine ⟨next, ?_⟩
      rw [hsender, if_pos hmessage, UInt16.ofNat_add, UInt16.add_assoc]
      rfl

/-- **Sending is all or nothing**: in every run of calls of a sender with an MTU from 255 on, each
    call is refused with nothing sent and the number kept, or emits a complete superframe under
    that number and advances it; and the number counts the successful calls before. -/
theorem all_or_nothing (lSetMTU lSuperFrameNo : UInt16) (hmtu : UINT8_MAX ≤ lSetMTU.toNat)
    (calls : List Call) (c : Call) :
    let fresh := (new lSetMTU).setSuperFrameNo lSuperFrameNo
    let sender := machine.run fresh calls
    let out := sender.packAndSendFromPtr c
    sender.mSuperFrameNoGenerator = lSuperFrameNo + UInt16.ofNat (fresh.successes calls) ∧
      out.message ≠ .internalCalculationError ∧
      ((out.message ∈ refusals ∧ out.packets = [] ∧
          out.sender.mSuperFrameNoGenerator = sender.mSuperFrameNoGenerator) ∨
        (out.message = .noError ∧
          FragmentationLaw lSetMTU.toNat c.rPacket sender.mSuperFrameNoGenerator out.packets ∧
          out.sender.mSuperFrameNoGenerator = sender.mSuperFrameNoGenerator + 1)) := by
  intro fresh sender out
  obtain ⟨buffer, hrun⟩ : ∃ buffer, sender = used lSetMTU
      (lSuperFrameNo + UInt16.ofNat (fresh.successes calls)) buffer :=
    run_eq lSetMTU lSuperFrameNo hmtu calls
  have hout := packAndSendFromPtr_outcome c lSetMTU
    (lSuperFrameNo + UInt16.ofNat (fresh.successes calls)) buffer hmtu
  rw [← hrun] at hout
  refine ⟨by rw [hrun]; rfl, ?_, ?_⟩
  · rcases hout with ⟨hmem, -⟩ | ⟨hmessage, -⟩
    · intro herror
      rw [herror] at hmem
      exact absurd hmem (by decide)
    · rw [hmessage]
      decide
  · rcases hout with ⟨hmem, hnone, hsender⟩ | ⟨hmessage, hlaw, next, hsender⟩
    · exact Or.inl ⟨hmem, hnone, congrArg _ hsender⟩
    · refine Or.inr ⟨hmessage, ?_, ?_⟩
      · rw [hrun]
        exact hlaw
      · rw [hsender, hrun]
        rfl

/-- A refused call between two successful ones. -/
theorem all_or_nothing_cutCall :
    let fresh := (new 255).setSuperFrameNo 65535
    let sender := machine.run fresh [cutCall, { cutCall with lStreamID := 0 }]
    let out := sender.packAndSendFromPtr cutCall
    sender.mSuperFrameNoGenerator = 65535 + UInt16.ofNat
        (fresh.successes [cutCall, { cutCall with lStreamID := 0 }]) ∧
      out.message ≠ .internalCalculationError ∧
      ((out.message ∈ refusals ∧ out.packets = [] ∧
          out.sender.mSuperFrameNoGenerator = sender.mSuperFrameNoGenerator) ∨
        (out.message = .noError ∧
          FragmentationLaw 255 cutCall.rPacket sender.mSuperFrameNoGenerator out.packets ∧
          out.sender.mSuperFrameNoGenerator = sender.mSuperFrameNoGenerator + 1)) :=
  all_or_nothing 255 65535 (by decide) [cutCall, { cutCall with lStreamID := 0 }] cutCall

end Sender

end ElasticFrame
