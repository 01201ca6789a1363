import ElasticFrame.Lib.LittleEndian

/-!
# The Wire Format

The constants, result codes and fragment headers of `ElasticFrameProtocol.h` and
`ElasticInternal.h`.

A fragment is a header followed by data. There are three headers:

- `ElasticFrameType1` (8 bytes): a part of a superframe larger than the MTU
- `ElasticFrameType2` (32 bytes): the tail of a superframe, or all of a small one
- `ElasticFrameType3` (8 bytes): the rest of the data when it does not fit a type2 packet

`#pragma pack` stands inside the bodies of the structs, where it does not pack them: every field is
at a multiple of its size, in little-endian order. So the type2 header has padding, one byte behind
`hDataContent` and four behind `hType1PacketSize`. The fields are assigned one by one, so a written
header leaves in its padding what was there, and a `reinterpret_cast` of a packet reads the fields
back whatever the padding is (`ofBytes_toBytes`). (A build for Android packs the structs by an
attribute instead; it is not modelled.)
-/

namespace ElasticFrame

open ElasticFrame.Lib

/-! ## §1 Constants -/

/-- Size of the circular buffer, a run of set bits. -/
def CIRCULAR_BUFFER_SIZE : ℕ := 8191

def UINT8_MAX : ℕ := 255
def UINT16_MAX : ℕ := 65535
def UINT32_MAX : ℕ := 4294967295

/-- `UINT64_MAX` as a `uint64_t`: reserved PTS and DTS, and the order of a bucket never opened. -/
def UINT64_MAX : UInt64 := 18446744073709551615

/-- `size_t` arithmetic: an exact result, wrapped to 64 bits. -/
def sizeT (n : ℕ) : ℕ := n % 2 ^ 64

theorem sizeT_of_lt {n : ℕ} (h : n < 2 ^ 64) : sizeT n = n := Nat.mod_eq_of_lt h

theorem sizeT_le (n : ℕ) : sizeT n ≤ n := Nat.mod_le _ _

/-- `n - 1` of a 16-bit count that is not zero: as a `size_t`, and as a `uint16_t`. -/
theorem sizeT_sub_one {n : UInt16} (hne : n ≠ 0) :
    sizeT (n.toNat + (2 ^ 64 - 1)) = n.toNat - 1 ∧ (n - 1).toNat = n.toNat - 1 := by
  have hpos : n.toNat ≠ 0 := fun h0 => hne (UInt16.toNat_inj.mp h0)
  have hlt := n.toNat_lt
  constructor
  · unfold sizeT
    omega
  · rw [UInt16.toNat_sub]
    show (2 ^ 16 - 1 + n.toNat) % 2 ^ 16 = _
    omega

/-- The low four bits of the first byte (`enum Frametype`). -/
inductive Frametype where
  | type0 | type1 | type2 | type3
  deriving DecidableEq, Repr

/-- The value of a frame type in the first byte. -/
def Frametype.value : Frametype → UInt8
  | .type0 => 0
  | .type1 => 1
  | .type2 => 2
  | .type3 => 3

namespace ElasticFrameContent

/-- Content type of a stream nothing is known about. -/
def unknown : UInt8 := 0x00

/-- Content type of signalling, the only one that stream 0 may carry. -/
def efpsig : UInt8 := 0x80

end ElasticFrameContent

/-- Result codes of the sender, the receiver and the C API. -/
inductive ElasticFrameMessages where
  | tooLargeFrame
  | tooLargeEmbeddedData
  | unknownFrameType
  | frameSizeMismatch
  | internalCalculationError
  | bufferOutOfBounds
  | bufferOutOfResources
  | reservedPTSValue
  | reservedDTSValue
  | reservedCodeValue
  | reservedStreamValue
  | memoryAllocationError
  | illegalEmbeddedData
  | type1And3SizeError
  | receiverNotRunning
  | dtsptsDiffToLarge
  | type2FrameOutOfBounds
  | efpCAPIfailure
  | noError
  | duplicatePacketReceived
  | tooOldFragment
  | type0Frame
  deriving DecidableEq, Repr

/-! ## §2 Fragment headers -/

/-- Header of a part of a superframe larger than the MTU. -/
structure ElasticFrameType1 where
  hFrameType : UInt8
  hStream : UInt8
  hSuperFrameNo : UInt16
  hFragmentNo : UInt16
  hOfFragmentNo : UInt16
  deriving DecidableEq, Repr

/-- Header of the last fragment of a superframe, without its padding. -/
structure ElasticFrameType2 where
  hFrameType : UInt8
  hStreamID : UInt8
  hDataContent : UInt8
  hSizeOfData : UInt16
  hSuperFrameNo : UInt16
  hOfFragmentNo : UInt16
  hType1PacketSize : UInt16
  hPts : UInt64
  hDtsPtsDiff : UInt32
  hCode : UInt32
  deriving DecidableEq, Repr

/-- Header of the data that is too large for the closing type2 packet. -/
structure ElasticFrameType3 where
  hFrameType : UInt8
  hStreamID : UInt8
  hSuperFrameNo : UInt16
  hType1PacketSize : UInt16
  hOfFragmentNo : UInt16
  deriving DecidableEq, Repr

/-- The byte at an offset of a packet. Offsets past the end are never read by a function that
    checked the packet's size; the value given there is arbitrary. -/
def byteAt (p : List UInt8) (off : ℕ) : UInt8 := p.getD off 0

def u16At (p : List UInt8) (off : ℕ) : UInt16 := UInt16.ofNat (LittleEndian.field p off 2)
def u32At (p : List UInt8) (off : ℕ) : UInt32 := UInt32.ofNat (LittleEndian.field p off 4)
def u64At (p : List UInt8) (off : ℕ) : UInt64 := UInt64.ofNat (LittleEndian.field p off 8)

namespace ElasticFrameType1

/-- `sizeof(ElasticFrameType1)`. -/
def size : ℕ := 8

def toBytes (h : ElasticFrameType1) : List UInt8 :=
  [h.hFrameType, h.hStream] ++ LittleEndian.encode 2 h.hSuperFrameNo.toNat ++
    LittleEndian.encode 2 h.hFragmentNo.toNat ++ LittleEndian.encode 2 h.hOfFragmentNo.toNat

def ofBytes (p : List UInt8) : ElasticFrameType1 where
  hFrameType := byteAt p 0
  hStream := byteAt p 1
  hSuperFrameNo := u16At p 2
  hFragmentNo := u16At p 4
  hOfFragmentNo := u16At p 6

end ElasticFrameType1

namespace ElasticFrameType2

/-- `sizeof(ElasticFrameType2)`: the fields, and five bytes of padding. -/
def size : ℕ := 32

/-- What the padding of a header holds. -/
structure Padding where
  behindDataContent : UInt8 := 0
  behindType1PacketSize : UInt32 := 0
  deriving DecidableEq, Repr

/-- The padding of the header at the front of these bytes. -/
def Padding.ofBytes (p : List UInt8) : Padding where
  behindDataContent := byteAt p 3
  behindType1PacketSize := u32At p 12

def toBytes (h : ElasticFrameType2) (padding : Padding := {}) : List UInt8 :=
  [h.hFrameType, h.hStreamID, h.hDataContent, padding.behindDataContent] ++
    LittleEndian.encode 2 h.hSizeOfData.toNat ++ LittleEndian.encode 2 h.hSuperFrameNo.toNat ++
    LittleEndian.encode 2 h.hOfFragmentNo.toNat ++ LittleEndian.encode 2 h.hType1PacketSize.toNat ++
    LittleEndian.encode 4 padding.behindType1PacketSize.toNat ++
    LittleEndian.encode 8 h.hPts.toNat ++ LittleEndian.encode 4 h.hDtsPtsDiff.toNat ++
    LittleEndian.encode 4 h.hCode.toNat

def ofBytes (p : List UInt8) : ElasticFrameType2 where
  hFrameType := byteAt p 0
  hStreamID := byteAt p 1
  hDataContent := byteAt p 2
  hSizeOfData := u16At p 4
  hSuperFrameNo := u16At p 6
  hOfFragmentNo := u16At p 8
  hType1PacketSize := u16At p 10
  hPts := u64At p 16
  hDtsPtsDiff := u32At p 24
  hCode := u32At p 28

end ElasticFrameType2

namespace ElasticFrameType3

/-- `sizeof(ElasticFrameType3)`. -/
def size : ℕ := 8

def toBytes (h : ElasticFrameType3) : List UInt8 :=
  [h.hFrameType, h.hStreamID] ++ LittleEndian.encode 2 h.hSuperFrameNo.toNat ++
    LittleEndian.encode 2 h.hType1PacketSize.toNat ++ LittleEndian.encode 2 h.hOfFragmentNo.toNat

def ofBytes (p : List UInt8) : ElasticFrameType3 where
  hFrameType := byteAt p 0
  hStreamID := byteAt p 1
  hSuperFrameNo := u16At p 2
  hType1PacketSize := u16At p 4
  hOfFragmentNo := u16At p 6

end ElasticFrameType3

/-! ## §3 Headers read back -/

@[simp] theorem ElasticFrameType1.toBytes_length (h : ElasticFrameType1) :
    h.toBytes.length = ElasticFrameType1.size := by
  simp [toBytes, size]

@[simp] theorem ElasticFrameType2.toBytes_length (h : ElasticFrameType2) (padding : Padding) :
    (h.toBytes padding).length = ElasticFrameType2.size := by
  simp [toBytes, size]

@[simp] theorem ElasticFrameType3.toBytes_length (h : ElasticFrameType3) :
    h.toBytes.length = ElasticFrameType3.size := by
  simp [toBytes, size]

/-- A type1 header in front of any data reads back as itself. -/
theorem ElasticFrameType1.ofBytes_toBytes (h : ElasticFrameType1) (data : List UInt8) :
    ofBytes (h.toBytes ++ data) = h := by
  simp [ofBytes, toBytes, byteAt, u16At, LittleEndian.field_cons, LittleEndian.field_encode_skip,
    LittleEndian.field_encode]

/-- A type2 header in front of any data reads back as itself, whatever its padding is. -/
theorem ElasticFrameType2.ofBytes_toBytes (h : ElasticFrameType2) (padding : Padding)
    (data : List UInt8) : ofBytes (h.toBytes padding ++ data) = h := by
  simp [ofBytes, toBytes, byteAt, u16At, u32At, u64At, LittleEndian.field_cons,
    LittleEndian.field_encode_skip, LittleEndian.field_encode]

/-- So does its padding. -/
theorem ElasticFrameType2.padding_toBytes (h : ElasticFrameType2) (padding : Padding)
    (data : List UInt8) : Padding.ofBytes (h.toBytes padding ++ data) = padding := by
  simp [Padding.ofBytes, toBytes, byteAt, u32At, LittleEndian.field_cons,
    LittleEndian.field_encode_skip, LittleEndian.field_encode]

/-- Padding is in the first sixteen bytes. -/
theorem ElasticFrameType2.Padding.ofBytes_congr {p q : List UInt8}
    (h : ∀ i, i < 16 → byteAt p i = byteAt q i) : Padding.ofBytes p = Padding.ofBytes q := by
  have hfield : LittleEndian.field p 12 4 = LittleEndian.field q 12 4 :=
    LittleEndian.field_congr fun i _ hi => h i hi
  unfold Padding.ofBytes u32At
  rw [h 3 (by decide), hfield]

/-- A type3 header in front of any data reads back as itself. -/
theorem ElasticFrameType3.ofBytes_toBytes (h : ElasticFrameType3) (data : List UInt8) :
    ofBytes (h.toBytes ++ data) = h := by
  simp [ofBytes, toBytes, byteAt, u16At, LittleEndian.field_cons, LittleEndian.field_encode_skip,
    LittleEndian.field_encode]

/-! ## §4 Headers written back -/

section Written

variable {p : List UInt8}

private theorem take_append_byte {n : ℕ} (hlen : n < p.length) :
    p.take n ++ [byteAt p n] = p.take (n + 1) := by
  have hbyte : byteAt p n = p[n] := by
    rw [byteAt, List.getD_eq_getElem?_getD, List.getElem?_eq_getElem hlen, Option.getD_some]
  rw [hbyte, List.take_append_getElem]

private theorem take_append_u16 {n : ℕ} (hlen : n + 2 ≤ p.length) :
    p.take n ++ LittleEndian.encode 2 (u16At p n).toNat = p.take (n + 2) := by
  have hfield : (u16At p n).toNat = LittleEndian.field p n 2 := by
    rw [u16At, UInt16.toNat_ofNat']
    exact Nat.mod_eq_of_lt (LittleEndian.field_lt p n 2)
  rw [hfield, LittleEndian.take_append_field hlen]

private theorem take_append_u32 {n : ℕ} (hlen : n + 4 ≤ p.length) :
    p.take n ++ LittleEndian.encode 4 (u32At p n).toNat = p.take (n + 4) := by
  have hfield : (u32At p n).toNat = LittleEndian.field p n 4 := by
    rw [u32At, UInt32.toNat_ofNat']
    exact Nat.mod_eq_of_lt (LittleEndian.field_lt p n 4)
  rw [hfield, LittleEndian.take_append_field hlen]

private theorem take_append_u64 {n : ℕ} (hlen : n + 8 ≤ p.length) :
    p.take n ++ LittleEndian.encode 8 (u64At p n).toNat = p.take (n + 8) := by
  have hfield : (u64At p n).toNat = LittleEndian.field p n 8 := by
    rw [u64At, UInt64.toNat_ofNat']
    exact Nat.mod_eq_of_lt (LittleEndian.field_lt p n 8)
  rw [hfield, LittleEndian.take_append_field hlen]

/-- The type1 and the type3 header have fields of the same sizes. -/
private theorem take_eight (hlen : 8 ≤ p.length) :
    [byteAt p 0, byteAt p 1] ++ LittleEndian.encode 2 (u16At p 2).toNat ++
      LittleEndian.encode 2 (u16At p 4).toNat ++ LittleEndian.encode 2 (u16At p 6).toNat =
        p.take 8 := by
  have hbytes : [byteAt p 0, byteAt p 1] = p.take 2 := by
    rw [← take_append_byte (by omega), ← take_append_byte (by omega)]
    rfl
  rw [hbytes, take_append_u16 (by omega), take_append_u16 (by omega), take_append_u16 (by omega)]

/-- The type1 header of a packet is written back. -/
theorem ElasticFrameType1.toBytes_ofBytes (hsize : ElasticFrameType1.size ≤ p.length) :
    (ofBytes p).toBytes = p.take ElasticFrameType1.size := take_eight hsize

/-- The type2 header of a packet is written back, with its padding. -/
theorem ElasticFrameType2.toBytes_ofBytes (hsize : ElasticFrameType2.size ≤ p.length) :
    (ofBytes p).toBytes (Padding.ofBytes p) = p.take ElasticFrameType2.size := by
  have hlen : 32 ≤ p.length := hsize
  have hbytes : [byteAt p 0, byteAt p 1, byteAt p 2, byteAt p 3] = p.take 4 := by
    rw [← take_append_byte (by omega), ← take_append_byte (by omega),
      ← take_append_byte (by omega), ← take_append_byte (by omega)]
    rfl
  show [byteAt p 0, byteAt p 1, byteAt p 2, byteAt p 3] ++ _ ++ _ ++ _ ++ _ ++ _ ++ _ ++ _ ++ _ =
    p.take 32
  rw [hbytes]
  simp only [ofBytes, Padding.ofBytes]
  rw [take_append_u16 (by omega), take_append_u16 (by omega), take_append_u16 (by omega),
    take_append_u16 (by omega), take_append_u32 (by omega), take_append_u64 (by omega),
    take_append_u32 (by omega), take_append_u32 (by omega)]

/-- The type3 header of a packet is written back. -/
theorem ElasticFrameType3.toBytes_ofBytes (hsize : ElasticFrameType3.size ≤ p.length) :
    (ofBytes p).toBytes = p.take ElasticFrameType3.size := take_eight hsize

end Written

end ElasticFrame
