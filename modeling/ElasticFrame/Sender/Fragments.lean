import ElasticFrame.Receiver.Run
import ElasticFrame.Sender.Pack

/-!
# What a Sender Emits

A superframe on the wire is a `Parcel`: its values, its data, and how the data is cut. The
fragments of a parcel are listed in the order of their positions, so that the `p`-th fragment has
position `p` (`Parcel.fragment_position`), and each holds a slice of the data at its own place
(`Parcel.slice`).

- `Sender.packAndSendFromPtr_eq`: a call emits the fragments of its parcel, or is refused
- `Fragment.ofPacket_toBytes`: the receiver reads them back
-/

namespace ElasticFrame

open ElasticFrame.Lib

/-! ## §1 Fragments as packets -/

namespace Fragment

/-- The packet of a fragment. Only a type2 header has padding. -/
def toBytes (f : Fragment) (padding : ElasticFrameType2.Padding := {}) : List UInt8 :=
  match f with
  | type1 h d => h.toBytes ++ d
  | type2 h d => h.toBytes padding ++ d
  | type3 h d => h.toBytes ++ d

/-- The low bits of the first byte tell the kind, and a type2 header the size of its data. -/
def Typed : Fragment → Prop
  | type1 h _ => h.hFrameType &&& 0x0f = Frametype.type1.value
  | type2 h d => h.hFrameType &&& 0x0f = Frametype.type2.value ∧ h.hSizeOfData.toNat = d.length
  | type3 h _ => h.hFrameType &&& 0x0f = Frametype.type3.value

/-- **A typed fragment is read back from its packet**, whatever the padding is. -/
theorem ofPacket_toBytes {f : Fragment} (htyped : f.Typed) (padding : ElasticFrameType2.Padding) :
    ofPacket (f.toBytes padding) = some f := by
  have hkinds : Frametype.type1.value = 1 ∧ Frametype.type2.value = 2 ∧
      Frametype.type3.value = 3 := ⟨rfl, rfl, rfl⟩
  obtain ⟨hv1, hv2, hv3⟩ := hkinds
  cases f with
  | type1 h d =>
    have hkind : byteAt (h.toBytes ++ d) 0 &&& 0x0f = Frametype.type1.value := htyped
    have hread : fragmentType1 (h.toBytes ++ d) = .type1 h d := by
      rw [fragmentType1, ElasticFrameType1.ofBytes_toBytes,
        List.drop_left' (ElasticFrameType1.toBytes_length h)]
    show ofPacket (h.toBytes ++ d) = _
    rw [ofPacket, if_pos ⟨hkind, by simp⟩, hread]
  | type2 h d =>
    have hkind : byteAt (h.toBytes padding ++ d) 0 &&& 0x0f = Frametype.type2.value := htyped.1
    have hread : fragmentType2 (h.toBytes padding ++ d) = .type2 h d := by
      rw [fragmentType2, ElasticFrameType2.ofBytes_toBytes,
        List.drop_left' (ElasticFrameType2.toBytes_length h padding), htyped.2, List.take_length]
    show ofPacket (h.toBytes padding ++ d) = _
    have hsize : ElasticFrameType2.size +
        (ElasticFrameType2.ofBytes (h.toBytes padding ++ d)).hSizeOfData.toNat ≤
          (h.toBytes padding ++ d).length := by
      rw [ElasticFrameType2.ofBytes_toBytes, htyped.2]
      simp
    rw [ofPacket, if_neg (by simp [hkind, hv1, hv2]), if_pos ⟨hkind, hsize⟩, hread]
  | type3 h d =>
    have hkind : byteAt (h.toBytes ++ d) 0 &&& 0x0f = Frametype.type3.value := htyped
    have hread : fragmentType3 (h.toBytes ++ d) = .type3 h d := by
      rw [fragmentType3, ElasticFrameType3.ofBytes_toBytes,
        List.drop_left' (ElasticFrameType3.toBytes_length h)]
    show ofPacket (h.toBytes ++ d) = _
    rw [ofPacket, if_neg (by simp [hkind, hv1, hv3]), if_neg (by simp [hkind, hv2, hv3]),
      if_pos ⟨hkind, by simp⟩, hread]

end Fragment

/-- A packet with zeros in the padding of its header. -/
def clearPadding (p : List UInt8) : List UInt8 :=
  if byteAt p 0 &&& 0x0f = Frametype.type2.value ∧ ElasticFrameType2.size ≤ p.length then
    (ElasticFrameType2.ofBytes p).toBytes ++ p.drop ElasticFrameType2.size
  else p

/-- Packets of one fragment differ in the padding only. -/
theorem Fragment.clearPadding_toBytes {f : Fragment} (htyped : f.Typed)
    (padding : ElasticFrameType2.Padding) : clearPadding (f.toBytes padding) = f.toBytes := by
  cases f with
  | type1 h d =>
    have hkind : byteAt (h.toBytes ++ d) 0 &&& 0x0f = Frametype.type1.value := htyped
    exact if_neg fun htype2 => absurd (hkind.symm.trans htype2.1) (by decide)
  | type2 h d =>
    have hkind : byteAt (h.toBytes padding ++ d) 0 &&& 0x0f = Frametype.type2.value := htyped.1
    show clearPadding (h.toBytes padding ++ d) = h.toBytes ++ d
    rw [clearPadding, if_pos ⟨hkind, by simp⟩, ElasticFrameType2.ofBytes_toBytes,
      List.drop_left' (ElasticFrameType2.toBytes_length h padding)]
  | type3 h d =>
    have hkind : byteAt (h.toBytes ++ d) 0 &&& 0x0f = Frametype.type3.value := htyped
    exact if_neg fun htype2 => absurd (hkind.symm.trans htype2.1) (by decide)

/-! ## §2 Parcels -/

/-- A superframe on the wire: its values, its data, and how the data is cut. The first `full`
    pieces of `size` bytes go into type1 fragments. The rest goes into the type2 fragment, or into
    a type3 fragment in front of it when the parcel is `split`. -/
structure Parcel where
  flags : UInt8
  hStreamID : UInt8
  hDataContent : UInt8
  hSuperFrameNo : UInt16
  hPts : UInt64
  hDtsPtsDiff : UInt32
  hCode : UInt32
  payload : List UInt8
  size : ℕ
  full : ℕ
  split : Bool
  flags_high : flags &&& 0x0f = 0
  fills : full * size ≤ payload.length
  rest_le : payload.length ≤ full * size + size
  size_lt : size < 65536
  last_lt : full + split.toNat < UINT16_MAX

namespace Parcel

variable (P : Parcel)

/-- The position of the type2 fragment, which all fragments announce. -/
def last : UInt16 := UInt16.ofNat (P.full + P.split.toNat)

/-- The data behind the type1 fragments. -/
def rest : List UInt8 := P.payload.drop (P.full * P.size)

/-- The data of the type2 fragment. -/
def tail : List UInt8 := if P.split then [] else P.rest

/-- The type1 fragment at a position. -/
def type1 (p : ℕ) : Fragment :=
  .type1
    { hFrameType := Frametype.type1.value ||| P.flags
      hStream := P.hStreamID
      hSuperFrameNo := P.hSuperFrameNo
      hFragmentNo := UInt16.ofNat p
      hOfFragmentNo := P.last }
    ((P.payload.drop (p * P.size)).take P.size)

def type3 : Fragment :=
  .type3
    { hFrameType := Frametype.type3.value ||| P.flags
      hStreamID := P.hStreamID
      hSuperFrameNo := P.hSuperFrameNo
      hType1PacketSize := UInt16.ofNat P.size
      hOfFragmentNo := P.last }
    P.rest

/-- The header of the type2 fragment. -/
def type2Header : ElasticFrameType2 where
  hFrameType := Frametype.type2.value ||| P.flags
  hStreamID := P.hStreamID
  hDataContent := P.hDataContent
  hSizeOfData := UInt16.ofNat P.tail.length
  hSuperFrameNo := P.hSuperFrameNo
  hOfFragmentNo := P.last
  hType1PacketSize := UInt16.ofNat P.size
  hPts := P.hPts
  hDtsPtsDiff := P.hDtsPtsDiff
  hCode := P.hCode

def type2 : Fragment := .type2 P.type2Header P.tail

/-- The fragments of a parcel, in the order of their positions. -/
def fragments : List Fragment :=
  (List.range P.full).map P.type1 ++ (if P.split then [P.type3] else []) ++ [P.type2]

theorem mem_fragments {f : Fragment} :
    f ∈ P.fragments ↔
      (∃ p, p < P.full ∧ f = P.type1 p) ∨ (P.split = true ∧ f = P.type3) ∨ f = P.type2 := by
  cases hsplit : P.split <;> simp [fragments, hsplit, eq_comm]

/-- The packets of a parcel, with this padding in the type2 header. -/
def packets (padding : ElasticFrameType2.Padding) : List (List UInt8) :=
  P.fragments.map fun f => f.toBytes padding

theorem type2_mem : P.type2 ∈ P.fragments := P.mem_fragments.mpr (Or.inr (Or.inr rfl))

theorem fragments_length : P.fragments.length = P.full + P.split.toNat + 1 := by
  cases hsplit : P.split <;> simp [fragments, hsplit]

/-! ## §3 What a receiver sees of a parcel -/

theorem last_toNat : P.last.toNat = P.full + P.split.toNat := by
  have hlt : P.full + P.split.toNat < 65535 := P.last_lt
  rw [last, UInt16.toNat_ofNat']
  exact Nat.mod_eq_of_lt (by omega)

theorem size_toNat : (UInt16.ofNat P.size).toNat = P.size := by
  rw [UInt16.toNat_ofNat']
  exact Nat.mod_eq_of_lt P.size_lt

theorem rest_length : P.rest.length = P.payload.length - P.full * P.size := List.length_drop

/-- The data of a type1 fragment has the full size. -/
theorem type1_length {p : ℕ} (hp : p < P.full) : (P.type1 p).data.length = P.size := by
  have hfills := P.fills
  have hle : (p + 1) * P.size ≤ P.full * P.size := Nat.mul_le_mul_right _ hp
  rw [Nat.add_mul, Nat.one_mul] at hle
  show ((P.payload.drop (p * P.size)).take P.size).length = P.size
  rw [List.length_take, List.length_drop]
  omega

theorem tail_length_lt : P.tail.length < 65536 := by
  have hrest := P.rest_length
  have hle := P.rest_le
  have hsize := P.size_lt
  unfold tail
  split
  · decide
  · omega

/-- The low bits of a frame type survive the flags. -/
private theorem kind_or_flags (kind : Frametype) :
    (kind.value ||| P.flags) &&& 0x0f = kind.value := by
  have hflags := P.flags_high
  have hlow : kind.value &&& 0x0f = kind.value := by cases kind <;> rfl
  have hdistrib : (kind.value ||| P.flags) &&& 0x0f =
      (kind.value &&& 0x0f) ||| (P.flags &&& 0x0f) := by
    apply UInt8.toBitVec_inj.mp
    exact BitVec.and_or_distrib_right
  rw [hdistrib, hlow, hflags, UInt8.or_zero]

/-- The receiver reads the fragments of a parcel back. -/
theorem typed {f : Fragment} (hf : f ∈ P.fragments) : f.Typed := by
  rcases P.mem_fragments.mp hf with ⟨p, _, rfl⟩ | ⟨_, rfl⟩ | rfl
  · exact P.kind_or_flags .type1
  · exact P.kind_or_flags .type3
  · refine ⟨P.kind_or_flags .type2, ?_⟩
    show (UInt16.ofNat P.tail.length).toNat = P.tail.length
    rw [UInt16.toNat_ofNat']
    exact Nat.mod_eq_of_lt P.tail_length_lt

theorem ofPacket_fragment {f : Fragment} (hf : f ∈ P.fragments)
    (padding : ElasticFrameType2.Padding) : Fragment.ofPacket (f.toBytes padding) = some f :=
  Fragment.ofPacket_toBytes (P.typed hf) padding

/-- Up to the padding the packets are the same. -/
theorem clearPadding_packets (padding : ElasticFrameType2.Padding) :
    (P.packets padding).map clearPadding = P.packets {} := by
  rw [packets, List.map_map]
  exact List.map_congr_left fun f hf => Fragment.clearPadding_toBytes (P.typed hf) padding

/-- The type2 packet shows the padding. -/
theorem packets_inj {padding padding' : ElasticFrameType2.Padding} :
    P.packets padding = P.packets padding' ↔ padding = padding' := by
  refine ⟨fun hsame => ?_, fun hsame => by rw [hsame]⟩
  have hlast := congrArg List.getLast? hsame
  simp only [packets, fragments, List.map_append, List.map_singleton, List.getLast?_concat,
    Option.some.injEq] at hlast
  have hpadding := congrArg ElasticFrameType2.Padding.ofBytes hlast
  unfold type2 Fragment.toBytes at hpadding
  simpa only [ElasticFrameType2.padding_toBytes] using hpadding

/-- All fragments bear one number, announce one count and know one payload size. -/
theorem uniform {f : Fragment} (hf : f ∈ P.fragments) :
    f.hSuperFrameNo = P.hSuperFrameNo ∧ f.hOfFragmentNo = P.last ∧ f.fragmentSize = P.size := by
  rcases P.mem_fragments.mp hf with ⟨p, hp, rfl⟩ | ⟨_, rfl⟩ | rfl
  · exact ⟨rfl, rfl, P.type1_length hp⟩
  · exact ⟨rfl, rfl, P.size_toNat⟩
  · exact ⟨rfl, rfl, P.size_toNat⟩

/-- The position of a type3 fragment. -/
theorem type3_position (hsplit : P.split = true) : P.type3.fragmentNo.toNat = P.full := by
  have hlast := P.last_toNat
  have hlt : P.full + P.split.toNat < 65535 := P.last_lt
  rw [hsplit] at hlast hlt
  show (P.last - 1).toNat = P.full
  rw [UInt16.toNat_sub, hlast]
  show (2 ^ 16 - 1 + (P.full + 1)) % 2 ^ 16 = P.full
  have hlt : P.full + 1 < 65535 := hlt
  omega

/-- **The `p`-th fragment has position `p`.** -/
theorem fragment_position {p : ℕ} {f : Fragment} (hf : P.fragments[p]? = some f) :
    f.fragmentNo.toNat = p := by
  have hlast := P.last_toNat
  have hlt : P.full + P.split.toNat < 65535 := P.last_lt
  have hp : p < P.full + P.split.toNat + 1 := by
    rw [← P.fragments_length]
    exact (List.getElem?_eq_some_iff.mp hf).1
  unfold fragments at hf
  -- a type1 fragment, or one of the one or two behind them
  rcases Nat.lt_or_ge p P.full with hfull | hfull
  · rw [List.append_assoc, List.getElem?_append_left (by simpa using hfull)] at hf
    simp [hfull] at hf
    subst hf
    show (UInt16.ofNat p).toNat = p
    rw [UInt16.toNat_ofNat']
    exact Nat.mod_eq_of_lt (by omega)
  · rw [List.append_assoc, List.getElem?_append_right (by simpa using hfull)] at hf
    simp only [List.length_map, List.length_range] at hf
    cases hsplit : P.split with
    | true =>
      rw [hsplit] at hlast hlt hp
      simp only [hsplit, if_true, List.cons_append, List.nil_append] at hf
      have hcases : p - P.full = 0 ∨ p - P.full = 1 := by
        have hp : p < P.full + 1 + 1 := hp
        omega
      rcases hcases with hpos | hpos
      · rw [hpos] at hf
        obtain rfl := Option.some.inj hf
        rw [P.type3_position hsplit]
        omega
      · rw [hpos] at hf
        obtain rfl := Option.some.inj hf
        show P.last.toNat = p
        have hlast : P.last.toNat = P.full + 1 := hlast
        omega
    | false =>
      rw [hsplit] at hlast hp
      simp only [hsplit, Bool.false_eq_true, if_false, List.nil_append] at hf
      have hlast : P.last.toNat = P.full + 0 := hlast
      have hp : p < P.full + 0 + 1 := hp
      have hpos : p - P.full = 0 := by omega
      rw [hpos] at hf
      obtain rfl := Option.some.inj hf
      show P.last.toNat = p
      omega

/-- Positions tell the fragments of a parcel apart. -/
theorem position_inj {f g : Fragment} (hf : f ∈ P.fragments) (hg : g ∈ P.fragments)
    (hsame : f.fragmentNo = g.fragmentNo) : f = g := by
  obtain ⟨p, hp⟩ := List.mem_iff_getElem?.mp hf
  obtain ⟨q, hq⟩ := List.mem_iff_getElem?.mp hg
  have hpq : p = q := by rw [← P.fragment_position hp, ← P.fragment_position hq, hsame]
  rw [hpq] at hp
  exact Option.some.inj (hp.symm.trans hq)

/-- Every position is within the announced count and inside the bit set. -/
theorem position_le {f : Fragment} (hf : f ∈ P.fragments) :
    f.fragmentNo ≤ P.last ∧ f.fragmentNo.toNat < UINT16_MAX ∧ f.misplaced = false := by
  obtain ⟨p, hp, hget⟩ := List.mem_iff_getElem.mp hf
  have hpos := P.fragment_position (p := p) (f := f) (by
    rw [List.getElem?_eq_getElem hp, hget])
  rw [P.fragments_length] at hp
  have hlast := P.last_toNat
  have hlt : P.full + P.split.toNat < UINT16_MAX := P.last_lt
  have hle : f.fragmentNo ≤ P.last := by
    apply UInt16.le_iff_toNat_le.mpr
    omega
  refine ⟨hle, by omega, ?_⟩
  rcases P.mem_fragments.mp hf with ⟨p, _, rfl⟩ | ⟨_, rfl⟩ | rfl
  · show decide (P.last < UInt16.ofNat p) = false
    exact decide_eq_false (UInt16.not_lt.mpr hle)
  · rfl
  · rfl

/-- **Every fragment holds the slice of the data at its place.** -/
theorem slice {f : Fragment} (hf : f ∈ P.fragments) {x : ℕ} (hx : x < f.data.length) :
    f.data[x]? = P.payload[P.size * f.fragmentNo.toNat + x]? := by
  have hlt : P.full + P.split.toNat < 65535 := P.last_lt
  rcases P.mem_fragments.mp hf with ⟨p, hp, rfl⟩ | ⟨hsplit, rfl⟩ | rfl
  · have hpos : (P.type1 p).fragmentNo.toNat = p := by
      show (UInt16.ofNat p).toNat = p
      rw [UInt16.toNat_ofNat']
      exact Nat.mod_eq_of_lt (by omega)
    rw [P.type1_length hp] at hx
    show ((P.payload.drop (p * P.size)).take P.size)[x]? = _
    rw [hpos, List.getElem?_take_of_lt hx, List.getElem?_drop, Nat.mul_comm]
  · rw [P.type3_position hsplit]
    show (P.payload.drop (P.full * P.size))[x]? = _
    rw [List.getElem?_drop, Nat.mul_comm]
  · cases hsplit : P.split with
    | true =>
      -- the data is in the type3 fragment
      have hnone : P.tail.length = 0 := by simp [tail, hsplit]
      have hx : x < P.tail.length := hx
      omega
    | false =>
      have hpos : P.type2.fragmentNo.toNat = P.full := by
        show P.last.toNat = P.full
        rw [P.last_toNat, hsplit]
        rfl
      have hdata : P.type2.data = P.payload.drop (P.full * P.size) := by
        show P.tail = _
        simp [tail, hsplit, rest]
      rw [hpos, hdata, List.getElem?_drop, Nat.mul_comm]

end Parcel

/-! ## §4 What a call emits -/

namespace Sender

variable (s : Sender) (c : Call)

/-- The call passes the checks of `packAndSendFromPtr`. -/
structure Accepts : Prop where
  pts : c.lPts ≠ UINT64_MAX
  dts : c.lDts ≠ UINT64_MAX
  code : c.lCode.toNat ≠ UINT32_MAX
  stream : ¬ (c.lStreamID = 0 ∧ c.lDataContent ≠ ElasticFrameContent.efpsig)
  diff : (c.lPts - c.lDts).toNat < UINT32_MAX
  size : c.rPacket.length ≤ s.limit

/-- The superframe fits a single type2 packet. -/
def Single : Prop := c.rPacket.length + ElasticFrameType2.size ≤ s.mCurrentMTU.toNat

instance : Decidable (s.Single c) := inferInstanceAs (Decidable (_ ≤ _))

/-- The size of the data in a type1 packet. -/
def piece : ℕ := s.mCurrentMTU.toNat - ElasticFrameType1.size

/-- The number of type1 fragments of a superframe that does not fit the MTU. -/
def pieces : ℕ := c.rPacket.length / s.piece

/-- The rest does not fit the type2 packet. -/
def needsType3 : Bool :=
  s.mCurrentMTU.toNat - ElasticFrameType2.size < c.rPacket.length - s.pieces c * s.piece

/-- The count of fragments stays below 65535: a superframe at the limit needs no type3 fragment. -/
private theorem pieces_lt (hsize : c.rPacket.length ≤ s.limit) :
    s.pieces c + (s.needsType3 c).toNat < UINT16_MAX := by
  have hmtu : 255 ≤ s.mCurrentMTU.toNat := s.mtu_ge
  have hpiece : s.piece = s.mCurrentMTU.toNat - 8 := rfl
  have hlimit : s.limit = s.piece * 65534 + (s.mCurrentMTU.toNat - 32) := rfl
  have hle : s.pieces c * s.piece ≤ c.rPacket.length := Nat.div_mul_le_self _ _
  show s.pieces c + (s.needsType3 c).toNat < 65535
  rcases Nat.lt_or_ge (s.pieces c) 65534 with hfew | hmany
  · have hone : (s.needsType3 c).toNat ≤ 1 := Bool.toNat_le _
    omega
  · -- at least 65534 pieces leave no more than a type2 packet holds
    have hmul : 65534 * s.piece ≤ s.pieces c * s.piece := Nat.mul_le_mul_right _ hmany
    have hlt : s.pieces c < 65535 := by
      -- the rest is shorter than one more piece
      apply Nat.div_lt_of_lt_mul
      rw [Nat.mul_comm] at hmul
      have hsucc : s.piece * 65535 = s.piece * 65534 + s.piece := Nat.mul_succ _ _
      omega
    have hnone : s.needsType3 c = false := by
      apply decide_eq_false
      show ¬ s.mCurrentMTU.toNat - 32 < c.rPacket.length - s.pieces c * s.piece
      rw [Nat.mul_comm] at hmul
      omega
    rw [hnone]
    show s.pieces c + 0 < 65535
    omega

/-- The parcel of a call. -/
def parcel (hsize : c.rPacket.length ≤ s.limit) : Parcel where
  flags := c.lFlags &&& 0xf0
  hStreamID := c.lStreamID
  hDataContent := c.lDataContent
  hSuperFrameNo := s.mSuperFrameNoGenerator
  hPts := c.lPts
  hDtsPtsDiff := (c.lPts - c.lDts).toUInt32
  hCode := c.lCode
  payload := c.rPacket
  size := if s.Single c then c.rPacket.length else s.piece
  full := if s.Single c then 0 else s.pieces c
  split := if s.Single c then false else s.needsType3 c
  flags_high := by
    apply UInt8.toBitVec_inj.mp
    show (c.lFlags.toBitVec &&& 0xf0#8) &&& 0x0f#8 = 0#8
    rw [BitVec.and_assoc]
    exact BitVec.and_zero
  fills := by
    split
    · simp
    · exact Nat.div_mul_le_self _ _
  rest_le := by
    split
    · omega
    · have hpos : 0 < s.piece := Nat.sub_pos_of_lt (Nat.lt_of_lt_of_le (by decide) s.mtu_ge)
      exact (Nat.lt_div_mul_add hpos).le
  size_lt := by
    have hmtu := s.mCurrentMTU.toNat_lt
    split
    case isTrue hsingle =>
      have hsingle : c.rPacket.length + 32 ≤ s.mCurrentMTU.toNat := hsingle
      omega
    case isFalse => exact Nat.lt_of_le_of_lt (Nat.sub_le _ _) hmtu
  last_lt := by
    split
    · decide
    · exact s.pieces_lt c hsize

/-- The buffer for type1 packets has the size of the MTU. -/
def Exact : Prop := s.mSendBufferFixed.length = s.mCurrentMTU.toNat

theorem exact_new {lSetMTU : UInt16} (hmtu : UINT8_MAX ≤ lSetMTU.toNat) : (new lSetMTU).Exact := by
  unfold new Exact
  rw [dif_neg (Nat.not_lt.mpr hmtu)]
  exact List.length_replicate

theorem new_mCurrentMTU {lSetMTU : UInt16} (hmtu : UINT8_MAX ≤ lSetMTU.toNat) :
    (new lSetMTU).mCurrentMTU = lSetMTU := by
  unfold new
  rw [dif_neg (Nat.not_lt.mpr hmtu)]

/-- A sender that was made with this MTU argument and has been used: the number of its next
    superframe, and what the last packet left in the buffer. -/
def used (lSetMTU lSuperFrameNo : UInt16) (mSendBufferEnd : List UInt8) : Sender :=
  { (new lSetMTU).setSuperFrameNo lSuperFrameNo with mSendBufferEnd }

/-- A fresh sender has left nothing there. -/
theorem fresh_eq_used (lSetMTU lSuperFrameNo : UInt16) :
    (new lSetMTU).setSuperFrameNo lSuperFrameNo = used lSetMTU lSuperFrameNo [] := by
  unfold used setSuperFrameNo new
  split
  · rfl
  · rfl

theorem used_exact {lSetMTU : UInt16} (hmtu : UINT8_MAX ≤ lSetMTU.toNat) (lSuperFrameNo : UInt16)
    (mSendBufferEnd : List UInt8) : (used lSetMTU lSuperFrameNo mSendBufferEnd).Exact :=
  exact_new hmtu

/-- Bytes that fill a buffer replace it. -/
theorem overwrite_full {buffer bytes : List UInt8} (h : bytes.length = buffer.length) :
    overwrite buffer bytes = bytes := by
  rw [overwrite, ← h, List.take_left]

/-- A type1 packet fills its buffer. -/
theorem type1Packet_eq (hexact : s.Exact) (p lOfFragmentNo : UInt16) {data : List UInt8}
    (hlen : data.length = s.piece) :
    s.type1Packet c p lOfFragmentNo data = Fragment.toBytes (.type1
      { hFrameType := Frametype.type1.value ||| c.lFlags &&& 0xf0
        hStream := c.lStreamID
        hSuperFrameNo := s.mSuperFrameNoGenerator
        hFragmentNo := p
        hOfFragmentNo := lOfFragmentNo } data) := by
  have hmtu : 255 ≤ s.mCurrentMTU.toNat := s.mtu_ge
  have hpiece : s.piece = s.mCurrentMTU.toNat - 8 := rfl
  apply overwrite_full
  rw [List.length_append, ElasticFrameType1.toBytes_length, hlen, hexact]
  show 8 + _ = _
  omega

/-- The loop emits the type1 fragments from a position on. -/
private theorem type1Loop_eq (hexact : s.Exact) (lOfFragmentNo : UInt16) (rounds p : ℕ)
    (hfills : (p + rounds) * s.piece ≤ c.rPacket.length) :
    s.type1Loop c lOfFragmentNo s.piece rounds (UInt16.ofNat p) (p * s.piece) =
      (List.range' p rounds).map fun p => Fragment.toBytes (.type1
        { hFrameType := Frametype.type1.value ||| c.lFlags &&& 0xf0
          hStream := c.lStreamID
          hSuperFrameNo := s.mSuperFrameNoGenerator
          hFragmentNo := UInt16.ofNat p
          hOfFragmentNo := lOfFragmentNo } ((c.rPacket.drop (p * s.piece)).take s.piece)) := by
  -- each round moves the number by one and the data pointer by one piece
  induction rounds generalizing p with
  | zero => rfl
  | succ rounds ih =>
    have hnext : UInt16.ofNat p + 1 = UInt16.ofNat (p + 1) := by rw [UInt16.ofNat_add]; rfl
    have hstep : p * s.piece + s.piece = (p + 1) * s.piece := (Nat.succ_mul _ _).symm
    have hlen : ((c.rPacket.drop (p * s.piece)).take s.piece).length = s.piece := by
      have hle : (p + 1) * s.piece ≤ (p + (rounds + 1)) * s.piece :=
        Nat.mul_le_mul_right _ (by omega)
      rw [List.length_take, List.length_drop]
      omega
    have hrest : (p + 1 + rounds) * s.piece ≤ c.rPacket.length := by
      rwa [Nat.add_assoc, Nat.add_comm 1 rounds]
    rw [type1Loop, hnext, hstep, ih (p + 1) hrest, List.range'_succ, List.map_cons,
      s.type1Packet_eq c hexact _ _ hlen]

/-- The loop emits all type1 fragments. The buffer does not matter when there is none. -/
private theorem type1Loop_all (hbuffer : s.pieces c = 0 ∨ s.Exact) (lOfFragmentNo : UInt16) :
    s.type1Loop c lOfFragmentNo s.piece (s.pieces c) 0 0 =
      (List.range (s.pieces c)).map fun p => Fragment.toBytes (.type1
        { hFrameType := Frametype.type1.value ||| c.lFlags &&& 0xf0
          hStream := c.lStreamID
          hSuperFrameNo := s.mSuperFrameNoGenerator
          hFragmentNo := UInt16.ofNat p
          hOfFragmentNo := lOfFragmentNo } ((c.rPacket.drop (p * s.piece)).take s.piece)) := by
  rcases hbuffer with hnone | hexact
  · rw [hnone]
    rfl
  · have hloop := s.type1Loop_eq c hexact lOfFragmentNo (s.pieces c) 0 (by
      rw [Nat.zero_add]
      exact Nat.div_mul_le_self _ _)
    rw [Nat.zero_mul] at hloop
    rw [List.range_eq_range', ← hloop]
    rfl

/-- The values that a small number has as a `uint16_t`. -/
private theorem ofNat_toNat_of_lt {n : ℕ} (h : n < 65536) : (UInt16.ofNat n).toNat = n := by
  rw [UInt16.toNat_ofNat']
  exact Nat.mod_eq_of_lt h

/-- The rest does not need a type3 packet when everything fits. -/
theorem needsType3_of_single (hsingle : s.Single c) : s.needsType3 c = false := by
  have hsingle : c.rPacket.length + 32 ≤ s.mCurrentMTU.toNat := hsingle
  apply decide_eq_false
  show ¬ s.mCurrentMTU.toNat - 32 < _
  omega

/-- The data behind the type1 packets of a superframe that does not fit the MTU. -/
def restOf : List UInt8 := c.rPacket.drop (s.pieces c * s.piece)

/-- What the padding of the type2 packet shows: bytes of the type3 packet of the call (of the
    number, and of the data), or what the packet of the last call left in the buffer. -/
def padding : ElasticFrameType2.Padding :=
  if s.needsType3 c then
    { behindDataContent := UInt8.ofNat (s.mSuperFrameNoGenerator.toNat / 256)
      behindType1PacketSize := u32At (s.restOf c) 4 }
  else ElasticFrameType2.Padding.ofBytes s.mSendBufferEnd

/-- The type2 packet that a call emits, with this padding. -/
def type2Emitted (padding : ElasticFrameType2.Padding) : List UInt8 :=
  if s.Single c then
    (s.type2HeaderOf c 0 (UInt16.ofNat c.rPacket.length) c.rPacket.length).toBytes padding ++
      c.rPacket
  else
    let lOfFragmentNo := UInt16.ofNat (s.pieces c + (s.needsType3 c).toNat)
    let data := if s.needsType3 c then [] else s.restOf c
    (s.type2HeaderOf c lOfFragmentNo (UInt16.ofNat s.piece) data.length).toBytes padding ++ data

/-- The packets in front of it. -/
def emittedBefore : List (List UInt8) :=
  if s.Single c then []
  else
    let lOfFragmentNo := UInt16.ofNat (s.pieces c + (s.needsType3 c).toNat)
    s.type1Loop c lOfFragmentNo s.piece (s.pieces c) 0 0 ++
      (if s.needsType3 c then [s.type3Packet c lOfFragmentNo (s.restOf c)] else [])

/-- The packets that a call emits, with this padding in the last one. -/
def emitted (padding : ElasticFrameType2.Padding) : List (List UInt8) :=
  s.emittedBefore c ++ [s.type2Emitted c padding]

/-- The sender after a superframe. -/
def advanced : Sender :=
  { s with
    mSuperFrameNoGenerator := s.mSuperFrameNoGenerator + 1
    mSendBufferEnd := s.type2Emitted c (s.padding c) }

/-- What a call that passes the checks gives back. -/
def sent (hsize : c.rPacket.length ≤ s.limit) : Packed where
  message := .noError
  sender := s.advanced c
  packets := (s.parcel c hsize).packets (s.padding c)

/-- Resizing leaves the padding that a header finds. -/
theorem padding_resize (buffer : List UInt8) (n : ℕ) :
    ElasticFrameType2.Padding.ofBytes (resize buffer (ElasticFrameType2.size + n)) =
      ElasticFrameType2.Padding.ofBytes buffer := by
  apply ElasticFrameType2.Padding.ofBytes_congr
  intro i hi
  have hsize : ElasticFrameType2.size = 32 := rfl
  rw [byteAt, byteAt, List.getD_eq_getElem?_getD, List.getD_eq_getElem?_getD, resize]
  rcases Nat.lt_or_ge i buffer.length with hinside | hpast
  · rw [List.getElem?_append_left (by rw [List.length_take]; omega),
      List.getElem?_take_of_lt (by omega)]
  · rw [List.getElem?_append_right (by rw [List.length_take]; omega),
      List.getElem?_eq_none hpast, List.getElem?_replicate]
    split
    · rfl
    · rfl

/-- The padding that a type3 packet leaves. -/
theorem padding_type3Packet (lOfFragmentNo : UInt16) (data : List UInt8) :
    ElasticFrameType2.Padding.ofBytes (s.type3Packet c lOfFragmentNo data) =
      { behindDataContent := UInt8.ofNat (s.mSuperFrameNoGenerator.toNat / 256)
        behindType1PacketSize := u32At data 4 } := by
  simp [type3Packet, ElasticFrameType2.Padding.ofBytes, ElasticFrameType3.toBytes, byteAt, u32At,
    LittleEndian.encode, LittleEndian.field_cons]

/-- The padding that a type2 packet leaves is its own. -/
theorem padding_type2Emitted (padding : ElasticFrameType2.Padding) :
    ElasticFrameType2.Padding.ofBytes (s.type2Emitted c padding) = padding := by
  unfold type2Emitted
  split
  · exact ElasticFrameType2.padding_toBytes _ _ _
  · exact ElasticFrameType2.padding_toBytes _ _ _

/-- The values of the calculations, without their casts. -/
theorem calculations (hsize : c.rPacket.length ≤ s.limit) :
    (UInt16.ofNat (s.mCurrentMTU.toNat - ElasticFrameType1.size)).toNat = s.piece ∧
      (UInt16.ofNat (s.mCurrentMTU.toNat - ElasticFrameType2.size)).toNat =
        s.mCurrentMTU.toNat - ElasticFrameType2.size ∧
      (UInt16.ofNat (s.pieces c)).toNat = s.pieces c ∧
      UInt16.ofNat (s.pieces c + (s.needsType3 c).toNat) =
        (if s.needsType3 c then UInt16.ofNat (s.pieces c) + 1 else UInt16.ofNat (s.pieces c)) := by
  have hmtu := s.mCurrentMTU.toNat_lt
  have hcount : s.pieces c + (s.needsType3 c).toNat < 65535 := s.pieces_lt c hsize
  refine ⟨ofNat_toNat_of_lt (Nat.lt_of_le_of_lt (Nat.sub_le _ _) hmtu),
    ofNat_toNat_of_lt (Nat.lt_of_le_of_lt (Nat.sub_le _ _) hmtu), ofNat_toNat_of_lt (by omega), ?_⟩
  rw [UInt16.ofNat_add]
  cases s.needsType3 c with
  | true => rfl
  | false => exact UInt16.add_zero _

/-- **The calculations of the sender hold**: behind its checks, the two that compare what has been
    sent with the size of the superframe pass, whatever the buffers are. -/
theorem fragmentAndSend_cut (hsize : c.rPacket.length ≤ s.limit) (hsingle : ¬ s.Single c) :
    s.fragmentAndSend c =
      { message := .noError, sender := s.advanced c, packets := s.emitted c (s.padding c) } := by
  have hmtu : 255 ≤ s.mCurrentMTU.toNat := s.mtu_ge
  have hle : s.pieces c * s.piece ≤ c.rPacket.length := Nat.div_mul_le_self _ _
  obtain ⟨hpiece, hpiece2, hpieces, hlast⟩ := s.calculations c hsize
  have hneeds : (decide (s.mCurrentMTU.toNat - ElasticFrameType2.size <
      c.rPacket.length - s.pieces c * s.piece)) = s.needsType3 c := rfl
  have hquotient : c.rPacket.length / (s.mCurrentMTU.toNat - ElasticFrameType1.size) =
      s.pieces c := rfl
  have hwhole : s.pieces c * s.piece + (c.rPacket.length - s.pieces c * s.piece) =
      c.rPacket.length := Nat.add_sub_cancel' hle
  have hrest : (c.rPacket.drop (s.pieces c * s.piece)).take
      (c.rPacket.length - s.pieces c * s.piece) = s.restOf c :=
    List.take_of_length_le (by rw [List.length_drop])
  unfold fragmentAndSend advanced emitted emittedBefore type2Emitted padding
  simp only [hquotient, hpiece, hpiece2, hpieces, hneeds, hlast, hsingle]
  cases hsplit : s.needsType3 c with
  | true =>
    -- everything went into the type3 packet, which was in the buffer
    have htype2 : ¬ s.mCurrentMTU.toNat < 0 + ElasticFrameType2.size :=
      Nat.not_lt.mpr (Nat.le_trans (by decide) hmtu)
    simp only [if_true, hwhole, ne_eq, not_true_eq_false, and_false, if_false, Nat.sub_self,
      or_false, htype2, hrest, List.take_zero, type2Packet, padding_resize, padding_type3Packet]
    rfl
  | false =>
    -- the rest fits the type2 packet
    have hfit : c.rPacket.length - s.pieces c * s.piece ≤
        s.mCurrentMTU.toNat - ElasticFrameType2.size :=
      Nat.not_lt.mp (of_decide_eq_false hsplit)
    have htype2 : ¬ s.mCurrentMTU.toNat <
        c.rPacket.length - s.pieces c * s.piece + ElasticFrameType2.size := by
      have hfit : c.rPacket.length - s.pieces c * s.piece ≤ s.mCurrentMTU.toNat - 32 := hfit
      show ¬ s.mCurrentMTU.toNat < c.rPacket.length - s.pieces c * s.piece + 32
      omega
    simp only [Bool.false_eq_true, if_false, ne_eq, not_true_eq_false, false_and, or_false, htype2,
      hrest, type2Packet, padding_resize]
    rfl

/-- The type2 packet is that of the parcel. -/
theorem type2Emitted_eq (hsize : c.rPacket.length ≤ s.limit)
    (padding : ElasticFrameType2.Padding) :
    s.type2Emitted c padding = (s.parcel c hsize).type2.toBytes padding := by
  unfold type2Emitted Parcel.type2 Parcel.type2Header Parcel.tail Parcel.rest Parcel.last
  by_cases hsingle : s.Single c
  · simp only [parcel, if_pos hsingle, Bool.false_eq_true, if_false, Nat.zero_mul, List.drop_zero]
    rfl
  · simp only [parcel, if_neg hsingle]
    rfl

/-- **The packets are the fragments of the parcel.** The buffer for type1 packets matters only when
    there is one. -/
theorem emitted_eq (hbuffer : s.pieces c = 0 ∨ s.Exact) (hsize : c.rPacket.length ≤ s.limit)
    (padding : ElasticFrameType2.Padding) :
    s.emitted c padding = (s.parcel c hsize).packets padding := by
  rw [emitted, s.type2Emitted_eq c hsize padding, Parcel.packets, Parcel.fragments, List.map_append,
    List.map_singleton]
  congr 1
  unfold emittedBefore
  by_cases hsingle : s.Single c
  · simp [parcel, hsingle]
  · have hfields : (s.parcel c hsize).full = s.pieces c ∧
        (s.parcel c hsize).split = s.needsType3 c ∧ (s.parcel c hsize).size = s.piece := by
      simp [parcel, hsingle]
    have hlast : UInt16.ofNat (s.pieces c + (s.needsType3 c).toNat) = (s.parcel c hsize).last := by
      rw [Parcel.last, hfields.1, hfields.2.1]
    have hloop := s.type1Loop_all c hbuffer (s.parcel c hsize).last
    simp only [if_neg hsingle, hlast]
    rw [hloop]
    unfold Parcel.type1 Parcel.type3 Parcel.rest
    rw [hfields.1, hfields.2.1, hfields.2.2, List.map_append, List.map_map]
    cases s.needsType3 c <;> rfl

/-- The results of a call that does not pass the checks, in their order. -/
def refusals : List ElasticFrameMessages :=
  [.reservedPTSValue, .reservedDTSValue, .reservedCodeValue, .reservedStreamValue,
    .dtsptsDiffToLarge, .tooLargeFrame]

/-- A call that does not pass the checks sends nothing and changes nothing. Of the sender the checks
    look at the MTU only. -/
theorem packAndSendFromPtr_refused_alike (s' : Sender) (hmtu : s'.mCurrentMTU = s.mCurrentMTU)
    (hrefused : ¬ s.Accepts c) :
    ∃ message ∈ refusals,
      s.packAndSendFromPtr c = { message, sender := s, packets := [] } ∧
      s'.packAndSendFromPtr c = { message, sender := s', packets := [] } := by
  have hlimit : s'.limit = s.limit := by rw [limit, limit, hmtu]
  have hkinds : ¬ ElasticFrameType1.size ≠ ElasticFrameType3.size := by decide
  unfold packAndSendFromPtr
  simp only [hlimit]
  rw [if_neg hkinds, if_neg hkinds]
  split_ifs with hpts hdts hcode hstream hdiff hsize
  · exact ⟨_, by simp [refusals], rfl, rfl⟩
  · exact ⟨_, by simp [refusals], rfl, rfl⟩
  · exact ⟨_, by simp [refusals], rfl, rfl⟩
  · exact ⟨_, by simp [refusals], rfl, rfl⟩
  · exact ⟨_, by simp [refusals], rfl, rfl⟩
  · exact ⟨_, by simp [refusals], rfl, rfl⟩
  all_goals
    exact absurd ⟨hpts, hdts, hcode, hstream, Nat.not_le.mp hdiff, Nat.not_lt.mp hsize⟩ hrefused

theorem packAndSendFromPtr_refused (hrefused : ¬ s.Accepts c) :
    ∃ message ∈ refusals,
      s.packAndSendFromPtr c = { message, sender := s, packets := [] } := by
  obtain ⟨message, hmem, hout, -⟩ := s.packAndSendFromPtr_refused_alike c s rfl hrefused
  exact ⟨message, hmem, hout⟩

/-- A successful call passed the checks. -/
theorem accepts_of_success (hmessage : (s.packAndSendFromPtr c).message = .noError) :
    s.Accepts c := by
  by_contra hrefused
  -- no refusal is a success
  obtain ⟨message, hmem, hout⟩ := s.packAndSendFromPtr_refused c hrefused
  rw [hout] at hmessage
  obtain rfl : message = .noError := hmessage
  exact absurd hmem (by decide)

/-- A call that passes the checks sends one packet, or the packets of a cut superframe. -/
theorem packAndSendFromPtr_accepted (h : s.Accepts c) :
    s.packAndSendFromPtr c =
      { message := .noError, sender := s.advanced c, packets := s.emitted c (s.padding c) } := by
  unfold packAndSendFromPtr
  simp only []
  rw [if_neg (by decide), if_neg h.pts, if_neg h.dts, if_neg h.code, if_neg h.stream,
    if_neg (Nat.not_le.mpr h.diff), if_neg (Nat.not_lt.mpr h.size)]
  change (if s.Single c then _ else _) = _
  split
  case isTrue hsingle =>
    have hnone := s.needsType3_of_single c hsingle
    simp only [type2Packet, padding_resize, advanced, emitted, emittedBefore, type2Emitted, padding,
      if_pos hsingle, hnone, Bool.false_eq_true, if_false, List.nil_append]
  case isFalse hsingle => exact s.fragmentAndSend_cut c h.size hsingle

/-- **A call that passes the checks emits the fragments of its parcel**, and nothing else does. -/
theorem packAndSendFromPtr_eq (hexact : s.Exact) :
    (∀ h : s.Accepts c, s.packAndSendFromPtr c = s.sent c h.size) ∧
      ((s.packAndSendFromPtr c).message = .noError → s.Accepts c) := by
  constructor
  · intro h
    rw [s.packAndSendFromPtr_accepted c h, s.emitted_eq c (Or.inr hexact) h.size]
    rfl
  · exact s.accepts_of_success c

end Sender

/-! ## §5 Transmissions -/

/-- The sender after the first `k` of these calls. -/
def Sender.after (s : Sender) (calls : ℕ → Call) : ℕ → Sender
  | 0 => s
  | k + 1 => ((s.after calls k).packAndSendFromPtr (calls k)).sender

/-- A fresh sender with an MTU that it accepts, the number of its first superframe, and the calls
    that are made of it, all of them successful. -/
structure Transmission where
  lSetMTU : UInt16
  lSuperFrameNo : UInt16
  calls : ℕ → Call
  mtu_ge : UINT8_MAX ≤ lSetMTU.toNat
  succeeds : ∀ k, ((((Sender.new lSetMTU).setSuperFrameNo lSuperFrameNo).after calls
    k).packAndSendFromPtr (calls k)).message = .noError

namespace Transmission

variable (T : Transmission)

/-- The sender before the `k`-th call. -/
def sender (k : ℕ) : Sender :=
  ((Sender.new T.lSetMTU).setSuperFrameNo T.lSuperFrameNo).after T.calls k

/-- The packets that the `k`-th call gives to the send callback. -/
def packets (k : ℕ) : List (List UInt8) := ((T.sender k).packAndSendFromPtr (T.calls k)).packets

/-- The 16-bit number of the `k`-th superframe. -/
def number (k : ℕ) : UInt16 := T.lSuperFrameNo + UInt16.ofNat k

/-- The state of the sender before a call. -/
private theorem sender_spec (k : ℕ) :
    (T.sender k).Exact ∧ (T.sender k).mSuperFrameNoGenerator = T.number k := by
  induction k with
  | zero => exact ⟨Sender.exact_new T.mtu_ge, (UInt16.add_zero _).symm⟩
  | succ k ih =>
    -- a successful call passed the checks, so the generator moved by one
    obtain ⟨hexact, hnumber⟩ := ih
    have hspec := (T.sender k).packAndSendFromPtr_eq (T.calls k) hexact
    have hnext : T.sender (k + 1) = ((T.sender k).packAndSendFromPtr (T.calls k)).sender := rfl
    rw [hnext, hspec.1 (hspec.2 (T.succeeds k))]
    refine ⟨hexact, ?_⟩
    show (T.sender k).mSuperFrameNoGenerator + 1 = T.number (k + 1)
    rw [hnumber, number, number, UInt16.ofNat_add, UInt16.add_assoc]
    rfl

/-- Every call passed the checks of the sender. -/
theorem accepts (k : ℕ) : (T.sender k).Accepts (T.calls k) :=
  ((T.sender k).packAndSendFromPtr_eq (T.calls k) (T.sender_spec k).1).2 (T.succeeds k)

/-- The parcel of the `k`-th superframe. -/
def parcel (k : ℕ) : Parcel := (T.sender k).parcel (T.calls k) (T.accepts k).size

@[simp] theorem parcel_number (k : ℕ) : (T.parcel k).hSuperFrameNo = T.number k :=
  (T.sender_spec k).2

/-- What the padding of the `k`-th superframe shows. -/
def padding (k : ℕ) : ElasticFrameType2.Padding := (T.sender k).padding (T.calls k)

/-- **The packets of a superframe are the fragments of its parcel.** -/
theorem packets_eq (k : ℕ) : T.packets k = (T.parcel k).packets (T.padding k) := by
  have hspec := (T.sender k).packAndSendFromPtr_eq (T.calls k) (T.sender_spec k).1
  rw [packets, hspec.1 (T.accepts k)]
  rfl

theorem packets_length (k : ℕ) : (T.packets k).length = (T.parcel k).fragments.length := by
  rw [T.packets_eq, Parcel.packets, List.length_map]

/-- The receiver reads the packets back as the fragments. -/
theorem ofPacket_eq {k j : ℕ} {p : List UInt8} (hp : (T.packets k)[j]? = some p) :
    ∃ f, (T.parcel k).fragments[j]? = some f ∧ Fragment.ofPacket p = some f := by
  rw [T.packets_eq, Parcel.packets, List.getElem?_map] at hp
  obtain ⟨f, hf, rfl⟩ := Option.map_eq_some_iff.mp hp
  exact ⟨f, hf, (T.parcel k).ofPacket_fragment (List.mem_of_getElem? hf) (T.padding k)⟩

/-- The padding stays as it is from superframe to superframe, until there is a type3 packet. -/
theorem padding_succ {k : ℕ}
    (hnone : (T.sender (k + 1)).needsType3 (T.calls (k + 1)) = false) :
    T.padding (k + 1) = T.padding k := by
  have hspec := (T.sender k).packAndSendFromPtr_eq (T.calls k) (T.sender_spec k).1
  have hbuffer : (T.sender (k + 1)).mSendBufferEnd =
      (T.sender k).type2Emitted (T.calls k) (T.padding k) :=
    congrArg (fun out : Packed => out.sender.mSendBufferEnd) (hspec.1 (T.accepts k))
  rw [padding, Sender.padding, hnone, if_neg Bool.false_ne_true, hbuffer]
  exact (T.sender k).padding_type2Emitted (T.calls k) (T.padding k)

/-- Calls that pass the checks of the fresh sender all succeed. -/
def ofAccepted (lSetMTU lSuperFrameNo : UInt16) (calls : ℕ → Call)
    (mtu_ge : UINT8_MAX ≤ lSetMTU.toNat)
    (accepted : ∀ k, (Sender.new lSetMTU).Accepts (calls k)) : Transmission where
  lSetMTU
  lSuperFrameNo
  calls
  mtu_ge
  succeeds := by
    -- only the number of the sender and its buffer change, and no check looks at them
    have hspec : ∀ k n buffer, (Sender.used lSetMTU n buffer).packAndSendFromPtr (calls k) =
        (Sender.used lSetMTU n buffer).sent (calls k) (accepted k).size := by
      intro k n buffer
      obtain ⟨hpts, hdts, hcode, hstream, hdiff, hsize⟩ := accepted k
      exact ((Sender.used lSetMTU n buffer).packAndSendFromPtr_eq (calls k)
        (Sender.used_exact mtu_ge n buffer)).1 ⟨hpts, hdts, hcode, hstream, hdiff, hsize⟩
    have hafter : ∀ k, ∃ n buffer,
        ((Sender.new lSetMTU).setSuperFrameNo lSuperFrameNo).after calls k =
          Sender.used lSetMTU n buffer := by
      intro k
      induction k with
      | zero => exact ⟨lSuperFrameNo, [], Sender.fresh_eq_used lSetMTU lSuperFrameNo⟩
      | succ k ih =>
        obtain ⟨n, buffer, hn⟩ := ih
        refine ⟨n + 1, (Sender.used lSetMTU n buffer).type2Emitted (calls k)
          ((Sender.used lSetMTU n buffer).padding (calls k)), ?_⟩
        rw [Sender.after, hn, hspec k n buffer]
        rfl
    intro k
    obtain ⟨n, buffer, hn⟩ := hafter k
    rw [hn, hspec k n buffer]
    rfl

/-- A call with one byte of data. -/
def oneByte : Call where
  rPacket := [7]
  lDataContent := 0x20
  lPts := 1
  lDts := 1
  lCode := 0
  lStreamID := 1
  lFlags := 0

/-- A transmission whose superframes have one byte each, from this superframe number on. -/
def oneByteEach (lSuperFrameNo : UInt16) : Transmission :=
  ofAccepted 255 lSuperFrameNo (fun _ => oneByte) (by decide) fun _ =>
    ⟨by decide, by decide, by decide, by decide, by decide, by decide⟩

end Transmission

end ElasticFrame
