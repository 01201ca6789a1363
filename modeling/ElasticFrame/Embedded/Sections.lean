import ElasticFrame.Wire
import ElasticFrame.Lib.Machine
import ElasticFrame.Lib.Memory

/-!
# Embedded Data

`addEmbeddedData` and `extractEmbeddedData`: sections of private data in front of the payload of a
superframe. A section is a header of four bytes and its data:

| byte  | in the header                                                        |
|-------|----------------------------------------------------------------------|
| 0     | the content type, and in its top bit whether the section is the last |
| 1     | padding: the struct is not packed, and nothing is written there      |
| 2, 3  | the size of the data                                                 |

A section is inserted in front of what is there. So the chain is written back to front and read
front to back, and the last section of it is the first one inserted.
-/

namespace ElasticFrame

open ElasticFrame.Lib

/-! ## §1 Headers -/

namespace ElasticEmbeddedFrameContent

def illegal : UInt8 := 0x00

/-- The bit of the last section. -/
def lastembeddedcontent : UInt8 := 0x80

end ElasticEmbeddedFrameContent

/-- Header of a section. -/
@[ext]
structure ElasticEmbeddedHeader where
  mEmbeddedFrameType : UInt8 := ElasticEmbeddedFrameContent.illegal
  mSize : UInt16 := 0
  deriving DecidableEq, Repr

namespace ElasticEmbeddedHeader

/-- `sizeof(ElasticEmbeddedHeader)`. -/
def size : ℕ := 4

/-- The bytes of the struct, with what stands in its padding. -/
def toBytes (h : ElasticEmbeddedHeader) (padding : UInt8) : List UInt8 :=
  [h.mEmbeddedFrameType, padding] ++ LittleEndian.encode 2 h.mSize.toNat

def ofBytes (p : List UInt8) : ElasticEmbeddedHeader where
  mEmbeddedFrameType := byteAt p 0
  mSize := u16At p 2

@[simp] theorem toBytes_length (h : ElasticEmbeddedHeader) (padding : UInt8) :
    (h.toBytes padding).length = size := by
  simp [toBytes, size]

/-- A header reads back as itself, whatever its padding is. -/
theorem ofBytes_toBytes (h : ElasticEmbeddedHeader) (padding : UInt8) :
    ofBytes (h.toBytes padding) = h := by
  have hfield : LittleEndian.field (LittleEndian.encode 2 h.mSize.toNat) 0 2 = h.mSize.toNat := by
    have hread := LittleEndian.field_encode 2 h.mSize.toNat []
    rw [List.append_nil] at hread
    exact hread.trans (Nat.mod_eq_of_lt (Nat.lt_of_lt_of_le h.mSize.toNat_lt (by decide)))
  simp [ofBytes, toBytes, byteAt, u16At, LittleEndian.field_cons, hfield]

/-- Four bytes are the header that they read as, with their own padding. -/
theorem toBytes_ofBytes {p : List UInt8} (hlength : p.length = size) :
    (ofBytes p).toBytes (byteAt p 1) = p := by
  match p, hlength with
  | [a, b, c, d], _ =>
    have hlt : LittleEndian.decode [c, d] < 2 ^ 16 := by
      have hwidth : 256 ^ 2 = 2 ^ 16 := by decide
      rw [← hwidth]
      exact LittleEndian.decode_lt [c, d]
    have hsize : (UInt16.ofNat (LittleEndian.decode [c, d])).toNat =
        LittleEndian.decode [c, d] := by
      rw [UInt16.toNat_ofNat']
      exact Nat.mod_eq_of_lt hlt
    have hback := LittleEndian.encode_decode [c, d]
    show [a, b] ++ LittleEndian.encode 2 (UInt16.ofNat (LittleEndian.decode [c, d])).toNat = _
    rw [hsize]
    exact congrArg _ hback

end ElasticEmbeddedHeader

/-! ## §2 Inserting sections -/

/-- The arguments of `addEmbeddedData` besides the packet, and what stands in the padding of its
    header. -/
structure Insertion where
  pPrivateData : List UInt8
  lContent : UInt8
  lIsLast : Bool
  padding : UInt8
  deriving DecidableEq, Repr

/-- `addEmbeddedData`: the packet after the call, and its result. -/
def addEmbeddedData (pPacket : List UInt8) (i : Insertion) :
    List UInt8 × ElasticFrameMessages :=
  if UINT16_MAX < i.pPrivateData.length then (pPacket, .tooLargeEmbeddedData)
  else
    let lEmbeddedHeader : ElasticEmbeddedHeader :=
      { mSize := UInt16.ofNat i.pPrivateData.length
        mEmbeddedFrameType :=
          if i.lIsLast then i.lContent ||| ElasticEmbeddedFrameContent.lastembeddedcontent
          else i.lContent }
    (lEmbeddedHeader.toBytes i.padding ++ (i.pPrivateData ++ pPacket), .noError)

/-- Insertions into one packet, one after the other. -/
def embedder : Machine (List UInt8) Insertion ElasticFrameMessages := ⟨addEmbeddedData⟩

/-- A section of private data. -/
structure Section where
  lContent : UInt8
  pPrivateData : List UInt8
  padding : UInt8
  deriving DecidableEq, Repr

namespace Section

variable (s : Section)

def insertion (lIsLast : Bool) : Insertion :=
  { pPrivateData := s.pPrivateData, lContent := s.lContent, lIsLast, padding := s.padding }

/-- The data is not too large. -/
def Fits : Prop := s.pPrivateData.length ≤ UINT16_MAX

/-- The content type leaves the top bit free and is not the illegal one. -/
structure Legal : Prop where
  pos : 1 ≤ s.lContent
  le : s.lContent ≤ 0x7f
  fits : s.Fits

def header (lIsLast : Bool) : ElasticEmbeddedHeader where
  mSize := UInt16.ofNat s.pPrivateData.length
  mEmbeddedFrameType :=
    if lIsLast then s.lContent ||| ElasticEmbeddedFrameContent.lastembeddedcontent else s.lContent

/-- A section in the packet. -/
def bytes (lIsLast : Bool) : List UInt8 :=
  (s.header lIsLast).toBytes s.padding ++ s.pPrivateData

@[simp] theorem bytes_length (lIsLast : Bool) :
    (s.bytes lIsLast).length = ElasticEmbeddedHeader.size + s.pPrivateData.length := by
  simp [bytes]

variable {s}

/-- A section that is not too large is put in front of the packet. -/
theorem addEmbeddedData_eq (h : s.Fits) (pPacket : List UInt8) (lIsLast : Bool) :
    addEmbeddedData pPacket (s.insertion lIsLast) = (s.bytes lIsLast ++ pPacket, .noError) := by
  have hfits : ¬ UINT16_MAX < (s.insertion lIsLast).pPrivateData.length := Nat.not_lt.mpr h
  rw [addEmbeddedData, if_neg hfits, bytes, List.append_assoc]
  rfl

theorem header_size (h : s.Fits) (lIsLast : Bool) :
    (s.header lIsLast).mSize.toNat = s.pPrivateData.length := by
  show (UInt16.ofNat _).toNat = _
  rw [UInt16.toNat_ofNat']
  exact Nat.mod_eq_of_lt (Nat.lt_succ_of_le h)

end Section

/-- The calls that insert these sections, `lIsLast` for the first of them only. -/
def insertions : List Section → List Insertion
  | [] => []
  | s :: sections => s.insertion true :: sections.map fun s => s.insertion false

/-- Sections inserted in front of a chain. -/
private theorem embedder_more {sections : List Section} (hfits : ∀ s ∈ sections, s.Fits)
    (pPacket : List UInt8) :
    embedder.run pPacket (sections.map fun s => s.insertion false) =
        (sections.reverse.map fun s => s.bytes false).flatten ++ pPacket ∧
      ∀ message ∈ embedder.outputs pPacket (sections.map fun s => s.insertion false),
        message = .noError := by
  induction sections generalizing pPacket with
  | nil => exact ⟨rfl, fun message hmem => absurd hmem List.not_mem_nil⟩
  | cons s sections ih =>
    have hcall := Section.addEmbeddedData_eq (hfits s List.mem_cons_self) pPacket false
    obtain ⟨hrun, hmessages⟩ := ih (fun s' hs' => hfits s' (List.mem_cons_of_mem _ hs'))
      (s.bytes false ++ pPacket)
    constructor
    · rw [List.map_cons, Machine.run_cons]
      show embedder.run (addEmbeddedData pPacket (s.insertion false)).1 _ = _
      rw [hcall, hrun]
      simp
    · intro message hmem
      rcases List.mem_cons.mp hmem with rfl | hmem
      · exact congrArg Prod.snd hcall
      · apply hmessages
        change message ∈ embedder.outputs (addEmbeddedData pPacket (s.insertion false)).1 _ at hmem
        rwa [hcall] at hmem

/-- **What insertions write**: the sections in reverse order in front of the packet, and the one
    inserted first is marked as the last. -/
theorem embedder_insertions {s : Section} {sections : List Section}
    (hfits : ∀ s' ∈ s :: sections, s'.Fits) (pPacket : List UInt8) :
    embedder.run pPacket (insertions (s :: sections)) =
        (sections.reverse.map fun s => s.bytes false).flatten ++ (s.bytes true ++ pPacket) ∧
      ∀ message ∈ embedder.outputs pPacket (insertions (s :: sections)), message = .noError := by
  have hcall := Section.addEmbeddedData_eq (hfits s List.mem_cons_self) pPacket true
  obtain ⟨hrun, hmessages⟩ := embedder_more (fun s' hs' => hfits s' (List.mem_cons_of_mem _ hs'))
    (s.bytes true ++ pPacket)
  constructor
  · rw [insertions, Machine.run_cons]
    show embedder.run (addEmbeddedData pPacket (s.insertion true)).1 _ = _
    rw [hcall, hrun]
  · intro message hmem
    rcases List.mem_cons.mp hmem with rfl | hmem
    · exact congrArg Prod.snd hcall
    · apply hmessages
      change message ∈ embedder.outputs (addEmbeddedData pPacket (s.insertion true)).1 _ at hmem
      rwa [hcall] at hmem

end ElasticFrame
