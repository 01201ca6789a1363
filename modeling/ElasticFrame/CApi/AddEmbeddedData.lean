import ElasticFrame.Embedded.Sections

/-!
# Embedding Through the C API

`efp_add_embedded_data` encodes what `addEmbeddedData` encodes, in three writes to a buffer of the
caller. A call with a null destination tells how large the buffer has to be.

- `EmbedCall.holds`: what stands at the destination after the call
- `EmbedCall.Agrees`: the two encoders agree on these arguments
- `EmbedCall.agrees_iff`: they do exactly when the size of the data fits its field, as
  `addEmbeddedData` tests, and the size of the frame fits a `size_t`
-/

namespace ElasticFrame

open ElasticFrame.Lib

/-! ## §1 The encoder -/

/-- The arguments of `efp_add_embedded_data` besides its destination, with the bytes that its
    source pointers point to, and what stands in the padding of its header. -/
structure EmbedCall where
  pESrc : List UInt8
  pDSrc : List UInt8
  type : UInt8
  isLast : UInt8
  padding : UInt8
  deriving DecidableEq, Repr

/-- What a call gives back: the `size_t`, the memory, and the addresses that were written. -/
structure Embedded where
  returned : ℕ
  memory : Memory
  writes : List ℕ

/-- The header that the call writes. The size of the data is cast to `uint16_t`. -/
def EmbedCall.header (c : EmbedCall) : ElasticEmbeddedHeader where
  mSize := UInt16.ofNat c.pESrc.length
  mEmbeddedFrameType :=
    if c.isLast ≠ 0 then c.type ||| ElasticEmbeddedFrameContent.lastembeddedcontent else c.type

/-- `efp_add_embedded_data`: without a destination the size, else header, data and payload are
    written one behind the other. -/
def efpAddEmbeddedData (memory : Memory) (pDst : Option ℕ) (c : EmbedCall) : Embedded :=
  let lHeaderSize := ElasticEmbeddedHeader.size
  let embeddedDatasize := c.pESrc.length
  let dataSize := c.pDSrc.length
  match pDst with
  | none =>
    { returned := sizeT (lHeaderSize + embeddedDatasize + dataSize), memory, writes := [] }
  | some dst =>
    { returned := 0
      memory := ((memory.write dst (c.header.toBytes c.padding)).write (dst + lHeaderSize)
        c.pESrc).write (dst + lHeaderSize + embeddedDatasize) c.pDSrc
      writes := List.range' dst lHeaderSize ++ List.range' (dst + lHeaderSize) embeddedDatasize ++
        List.range' (dst + lHeaderSize + embeddedDatasize) dataSize }

namespace EmbedCall

variable (c : EmbedCall)

/-- The bytes of a call. -/
def bytes : List UInt8 := c.header.toBytes c.padding ++ (c.pESrc ++ c.pDSrc)

theorem bytes_length :
    c.bytes.length = ElasticEmbeddedHeader.size + c.pESrc.length + c.pDSrc.length := by
  simp [bytes, Nat.add_assoc]

/-- **What is written**: the bytes of the call, from the destination on. -/
theorem holds (m : Memory) (dst : ℕ) :
    (efpAddEmbeddedData m (some dst) c).memory.Holds dst c.bytes := by
  have hlength := c.header.toBytes_length c.padding
  -- each write is behind the ones before it
  apply Memory.Holds.append_iff.mpr
  rw [hlength]
  refine ⟨?_, Memory.Holds.append_iff.mpr ⟨?_, Memory.holds_write _ _ _⟩⟩
  · exact ((m.holds_write dst _).write_behind (by omega)).write_behind (by omega)
  · exact (Memory.holds_write _ _ _).write_behind (Nat.le_refl _)

/-- The addresses that are written are those of the bytes. -/
theorem writes_eq (m : Memory) (dst : ℕ) :
    (efpAddEmbeddedData m (some dst) c).writes = List.range' dst c.bytes.length := by
  rw [bytes_length]
  show List.range' dst _ ++ List.range' (dst + _) _ ++ List.range' (dst + _ + _) _ = _
  rw [List.range'_append_1, Nat.add_assoc dst, List.range'_append_1]

/-- The size that a call without a destination returns. -/
theorem returned_eq (m : Memory) :
    (efpAddEmbeddedData m none c).returned = sizeT c.bytes.length := by
  rw [bytes_length]
  rfl

/-- The header at the destination announces the size of the data, as a `uint16_t`. -/
theorem header_at (m : Memory) (dst : ℕ) :
    ElasticEmbeddedHeader.ofBytes ((efpAddEmbeddedData m (some dst) c).memory.read dst
      ElasticEmbeddedHeader.size) = c.header := by
  have hheader := (Memory.Holds.append_iff.mp (c.holds m dst)).1
  rw [Memory.Holds, ElasticEmbeddedHeader.toBytes_length] at hheader
  rw [hheader, ElasticEmbeddedHeader.ofBytes_toBytes]

/-! ## §2 The two encoders -/

/-- The call of `addEmbeddedData` with the same data, type and flag. -/
def insertion (padding : UInt8) : Insertion where
  pPrivateData := c.pESrc
  lContent := c.type
  lIsLast := c.isLast ≠ 0
  padding := padding

/-- The helpers of the C and the C++ API agree on a block. -/
structure Agrees : Prop where
  /-- The size for a null destination is the number of bytes that are written. -/
  size : ∀ (m : Memory) (dst : ℕ), (efpAddEmbeddedData m (some dst) c).writes =
    List.range' dst (efpAddEmbeddedData m none c).returned
  /-- The bytes are those of the C++ vector, the padding at position 1 aside. -/
  bytes : ∀ (m : Memory) (dst : ℕ) (padding : UInt8),
    (addEmbeddedData c.pDSrc (c.insertion padding)).2 = .noError → ∀ k ≠ 1,
      ((efpAddEmbeddedData m (some dst) c).memory.read dst
          (efpAddEmbeddedData m none c).returned)[k]? =
        (addEmbeddedData c.pDSrc (c.insertion padding)).1[k]?
  /-- A block that is too large for the C++ helper is not encoded under another length. -/
  refused : ∀ (m : Memory) (dst : ℕ) (padding : UInt8),
    (addEmbeddedData c.pDSrc (c.insertion padding)).2 = .tooLargeEmbeddedData →
      (ElasticEmbeddedHeader.ofBytes ((efpAddEmbeddedData m (some dst) c).memory.read dst
        ElasticEmbeddedHeader.size)).mSize.toNat = c.pESrc.length

variable {c}

/-- A block that fits is put in front of the payload by the C++ helper. -/
theorem addEmbeddedData_insertion (hfits : c.pESrc.length ≤ UINT16_MAX) (padding : UInt8) :
    addEmbeddedData c.pDSrc (c.insertion padding) =
      ({ c with padding }.bytes, .noError) := by
  have hnot : ¬ UINT16_MAX < (c.insertion padding).pPrivateData.length := Nat.not_lt.mpr hfits
  rw [addEmbeddedData, if_neg hnot]
  simp [insertion, bytes, header]

/-- The bytes of two calls that differ in the padding. -/
theorem bytes_padding (padding : UInt8) {k : ℕ} (hk : k ≠ 1) :
    c.bytes[k]? = { c with padding }.bytes[k]? := by
  match k, hk with
  | 0, _ => rfl
  | k + 2, _ => rfl

/-- A block that does not fit is refused by the C++ helper. -/
theorem addEmbeddedData_refused (hlarge : UINT16_MAX < c.pESrc.length) (padding : UInt8) :
    (addEmbeddedData c.pDSrc (c.insertion padding)).2 = .tooLargeEmbeddedData := by
  have hrefused : UINT16_MAX < (c.insertion padding).pPrivateData.length := hlarge
  rw [addEmbeddedData, if_pos hrefused]

/-- No field of 16 bits says the size of a larger block. -/
theorem not_agrees_of_large (hlarge : UINT16_MAX < c.pESrc.length) : ¬ c.Agrees := by
  intro hagrees
  have hsize := hagrees.refused (fun _ => 0) 0 0 (addEmbeddedData_refused hlarge 0)
  rw [header_at] at hsize
  have hlt : c.header.mSize.toNat < 65536 := c.header.mSize.toNat_lt
  have hlarge : 65535 < c.pESrc.length := hlarge
  omega

variable (c)

/-- **When the two encoders agree**: for every block, payload, type and flag, exactly when the
    block is one that `addEmbeddedData` takes and the size of the frame does not wrap. -/
theorem agrees_iff :
    c.Agrees ↔ c.pESrc.length ≤ UINT16_MAX ∧
      ElasticEmbeddedHeader.size + c.pESrc.length + c.pDSrc.length < 2 ^ 64 := by
  constructor
  · intro hagrees
    refine ⟨Nat.not_lt.mp fun hlarge => not_agrees_of_large hlarge hagrees, ?_⟩
    -- as many bytes are written as a `size_t` says
    have hsize := congrArg List.length (hagrees.size (fun _ => 0) 0)
    rw [writes_eq, returned_eq, List.length_range', List.length_range'] at hsize
    rw [← bytes_length, hsize]
    exact Nat.mod_lt _ (by decide)
  · rintro ⟨hfits, hroom⟩
    rw [← bytes_length] at hroom
    have hreturned : ∀ m, (efpAddEmbeddedData m none c).returned = c.bytes.length :=
      fun m => (c.returned_eq m).trans (sizeT_of_lt hroom)
    refine ⟨fun m dst => ?_, fun m dst padding _ k hk => ?_, fun m dst padding hrefused => ?_⟩
    · rw [writes_eq, hreturned]
    · rw [hreturned, c.holds m dst, addEmbeddedData_insertion hfits]
      exact bytes_padding padding hk
    · rw [addEmbeddedData_insertion hfits] at hrefused
      exact absurd hrefused (by simp)

/-- A block of 65536 bytes is encoded as an empty one, in front of 65536 bytes of payload. -/
theorem not_agrees_65536 :
    ¬ Agrees
      { pESrc := List.replicate 65536 0, pDSrc := [], type := 1, isLast := 1, padding := 0 } := by
  apply not_agrees_of_large
  rw [List.length_replicate]
  decide

end EmbedCall

end ElasticFrame
