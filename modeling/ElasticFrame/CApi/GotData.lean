import ElasticFrame.CApi.AddEmbeddedData
import ElasticFrame.Embedded.RoundTrip

/-!
# The Dispatcher of the C API

`gotData` is the receive callback of a receiver that was created through the C API. It takes the
embedded sections out of a superframe, hands each of them to one callback and then the payload to
the other.

- `BuiltFrame`: the frames that repeated calls of `efp_add_embedded_data` leave
- `BuiltFrame.eq_run`: they are those of `addEmbeddedData`
- `FrameView.extract_filled`: sections that fill the whole frame are an error of the extraction
- `gotData_intact_iff`: an intact superframe arrives exactly when it has a payload
-/

namespace ElasticFrame

open ElasticFrame.Lib

/-! ## §1 The dispatcher -/

/-- The flag of a superframe that has sections in front of its payload. -/
def INLINE_PAYLOAD : UInt8 := 0b00010000

/-- The superframe that the dispatcher is given: its bytes as a pointer sees them, and its
    metadata. -/
structure GotFrame extends FrameView where
  mDataContent : UInt8
  mBroken : Bool
  mPts : UInt64
  mDts : UInt64
  mCode : UInt32
  mStreamID : UInt8
  mSource : UInt8
  mFlags : UInt8

/-- Which callbacks are registered, and the context pointer that they get. -/
structure CCallbacks where
  receive : Bool
  receiveEmbeddedData : Bool
  mUnsafePointer : ℕ
  deriving DecidableEq, Repr

/-- A callback that is called, with the bytes behind its pointer. -/
inductive CCall where
  /-- `c_receiveEmbeddedDataCallback`. -/
  | receiveEmbeddedData (data : List UInt8) (content : UInt8) (pts : UInt64) (ctx : ℕ)
  /-- `c_receiveCallback`. -/
  | receive (data : List UInt8) (dataContent broken : UInt8) (pts dts : UInt64) (code : UInt32)
      (streamID source flags : UInt8) (ctx : ℕ)
  deriving DecidableEq, Repr

/-- The call of `c_receiveCallback` for the bytes from a position on. -/
def GotFrame.receiveCall (rPacket : GotFrame) (c : CCallbacks) (payloadDataPosition : ℕ) : CCall :=
  .receive
    (rPacket.pFrameData.read payloadDataPosition (rPacket.mFrameSize - payloadDataPosition))
    rPacket.mDataContent (if rPacket.mBroken then 1 else 0) rPacket.mPts rPacket.mDts rPacket.mCode
    rPacket.mStreamID rPacket.mSource rPacket.mFlags c.mUnsafePointer

/-- The call of `c_receiveEmbeddedDataCallback` for a section. -/
def GotFrame.embeddedCall (rPacket : GotFrame) (c : CCallbacks) (data : List UInt8)
    (content : UInt8) : CCall :=
  .receiveEmbeddedData data content rPacket.mPts c.mUnsafePointer

/-- `gotData`: the callbacks that are called, in order. The loop over the sections indexes both
    lists of the extraction, to which every round adds one entry each. -/
def gotData (c : CCallbacks) (rPacket : GotFrame) : List CCall :=
  if c.receive then
    if c.receiveEmbeddedData ∧ rPacket.mFlags &&& INLINE_PAYLOAD ≠ 0 ∧ rPacket.mBroken = false then
      let info := rPacket.extractEmbeddedData [] [] 0
      if info.message ≠ .noError then []
      else
        let embedded := List.zipWith (rPacket.embeddedCall c) info.pEmbeddedDataList
          info.pDataContent
        -- the sections were handed out before this test
        if rPacket.mFrameSize < info.pPayloadDataPosition then embedded
        else embedded ++ [rPacket.receiveCall c info.pPayloadDataPosition]
    else [rPacket.receiveCall c 0]
  else []

/-! ## §2 Frames built through the C API -/

/-- The arguments for a section in front of a frame. -/
def Section.embedCall (s : Section) (isLast : UInt8) (frame : List UInt8) : EmbedCall where
  pESrc := s.pPrivateData
  pDSrc := frame
  type := s.lContent
  isLast := isLast
  padding := s.padding

/-- A section is put in front of a frame: a call for the size, and a call that fills a buffer of
    this size at `pDst`. -/
def embedInFront (memory : Memory) (pDst : ℕ) (s : Section) (isLast : UInt8)
    (frame : List UInt8) : List UInt8 :=
  (efpAddEmbeddedData memory (some pDst) (s.embedCall isLast frame)).memory.read pDst
    (efpAddEmbeddedData memory none (s.embedCall isLast frame)).returned

/-- The frames that repeated calls leave, `isLast` set for the first section only. Every buffer is
    an object in memory, so it is not larger than `PTRDIFF_MAX`. -/
inductive BuiltFrame (payload : List UInt8) : List Section → List UInt8 → Prop where
  | first (s : Section) (isLast : UInt8) (hlast : isLast ≠ 0) (memory : Memory) (pDst : ℕ)
      (hbuffer : (s.bytes true).length + payload.length < 2 ^ 63) :
      BuiltFrame payload [s] (embedInFront memory pDst s isLast payload)
  | next {sections : List Section} {frame : List UInt8} (h : BuiltFrame payload sections frame)
      (s : Section) (memory : Memory) (pDst : ℕ)
      (hbuffer : (s.bytes false).length + frame.length < 2 ^ 63) :
      BuiltFrame payload (sections ++ [s]) (embedInFront memory pDst s 0 frame)

/-- In a buffer that is large enough the section stands in front of the frame. -/
theorem embedInFront_eq (memory : Memory) (pDst : ℕ) (s : Section) (isLast : UInt8)
    (frame : List UInt8)
    (hbuffer : (s.bytes (isLast ≠ 0)).length + frame.length < 2 ^ 63) :
    embedInFront memory pDst s isLast frame = s.bytes (isLast ≠ 0) ++ frame := by
  have hbytes : (s.embedCall isLast frame).bytes = s.bytes (isLast ≠ 0) ++ frame := by
    by_cases hzero : isLast = 0
    · simp [Section.embedCall, EmbedCall.bytes, EmbedCall.header, Section.bytes, Section.header,
        hzero]
    · simp [Section.embedCall, EmbedCall.bytes, EmbedCall.header, Section.bytes, Section.header,
        hzero]
  have hroom : (s.bytes (isLast ≠ 0) ++ frame).length < 2 ^ 64 := by
    rw [List.length_append]
    omega
  rw [embedInFront, EmbedCall.returned_eq, hbytes, sizeT_of_lt hroom, ← hbytes]
  exact EmbedCall.holds _ memory pDst

theorem insertions_concat {sections : List Section} (hne : sections ≠ []) (s : Section) :
    insertions (sections ++ [s]) = insertions sections ++ [s.insertion false] := by
  obtain ⟨s', sections, rfl⟩ := List.exists_cons_of_ne_nil hne
  simp [insertions]

namespace BuiltFrame

variable {payload : List UInt8} {sections : List Section} {frame : List UInt8}

theorem ne_nil (h : BuiltFrame payload sections frame) : sections ≠ [] := by
  cases h with
  | first => simp
  | next => simp

/-- **The C encoder builds the frames of the C++ encoder**, as long as the sections fit. -/
theorem eq_run (h : BuiltFrame payload sections frame) (hfits : ∀ s ∈ sections, s.Fits) :
    frame = embedder.run payload (insertions sections) := by
  induction h with
  | first s isLast hlast memory pDst hbuffer =>
    have hflag : (isLast ≠ 0 : Bool) = true := decide_eq_true hlast
    have hfront := embedInFront_eq memory pDst s isLast payload (by rw [hflag]; exact hbuffer)
    have hcall := Section.addEmbeddedData_eq (hfits s List.mem_cons_self) payload true
    rw [hfront, hflag]
    exact (congrArg Prod.fst hcall).symm
  | @next sections frame h s memory pDst hbuffer ih =>
    have hfront := embedInFront_eq memory pDst s 0 frame hbuffer
    have hcall := Section.addEmbeddedData_eq (hfits s (by simp)) frame false
    rw [insertions_concat h.ne_nil, Machine.run_concat,
      ← ih fun s' hs' => hfits s' (List.mem_append_left _ hs'), hfront]
    exact (congrArg Prod.fst hcall).symm

end BuiltFrame

/-! ## §3 Sections that fill the frame -/

/-- A last section with nothing behind it is an error. -/
theorem FrameView.extract_end {rPacket : FrameView} {s : Section} (hlegal : s.Legal) {q : ℕ}
    (h : rPacket.pFrameData.Holds q (s.bytes true))
    (hend : q + (s.bytes true).length = rPacket.mFrameSize) (datas : List (List UInt8))
    (contents : List UInt8) :
    (rPacket.extractEmbeddedData datas contents q).message = .bufferOutOfBounds := by
  obtain ⟨hheader, -, hlength⟩ := section_at hlegal.fits h
  obtain ⟨-, -, hne⟩ := content_of_last hlegal.le
  have htype : (rPacket.header q).mEmbeddedFrameType = s.lContent ||| 0x80 := by
    rw [hheader]
    rfl
  have hlt := rPacket.size_lt
  have hbehind : rPacket.behind q = rPacket.mFrameSize := by
    rw [rPacket.behind_eq (by omega), hlength, hend]
  have hround := rPacket.extractEmbeddedData_round datas contents q
  generalize rPacket.extractEmbeddedData datas contents q = out at hround ⊢
  cases hround with
  | illegal hillegal => exact absurd (htype.symm.trans hillegal) hne
  | outOfBounds => rfl
  | last _ hinside => exact absurd (hbehind ▸ hinside) (Nat.lt_irrefl _)
  | more _ hinside => exact absurd (hbehind ▸ hinside) (Nat.lt_irrefl _)

/-- **Sections that fill the whole frame** are found one by one, and then the extraction reports an
    error. -/
theorem FrameView.extract_filled {rPacket : FrameView} {ss : List Section} {s : Section}
    (hlegal : ∀ s' ∈ ss, s'.Legal) (hlast : s.Legal) {q : ℕ}
    (h : rPacket.pFrameData.Holds q (chain ss s))
    (hfilled : q + (chain ss s).length = rPacket.mFrameSize) (datas : List (List UInt8))
    (contents : List UInt8) :
    (rPacket.extractEmbeddedData datas contents q).message = .bufferOutOfBounds := by
  induction ss generalizing q datas contents with
  | nil => exact extract_end hlast h hfilled datas contents
  | cons s' ss ih =>
    rw [chain_cons] at h hfilled
    rw [List.length_append] at hfilled
    obtain ⟨hfront, hrest⟩ := Memory.Holds.append_iff.mp h
    -- the last section has a header, so the first one ends inside the frame
    have hpos : 0 < (chain ss s).length := by
      rw [chain, List.length_append, Section.bytes_length]
      show 0 < _ + (4 + _)
      omega
    rw [extract_more (hlegal s' List.mem_cons_self) datas contents hfront (by omega)]
    exact ih (fun s'' hs'' => hlegal s'' (List.mem_cons_of_mem _ hs'')) hrest (by omega) _ _

/-- Sections without a payload behind them are an error of the extraction. -/
theorem FrameView.extract_no_payload (rPacket : FrameView) {sections : List Section}
    (hne : sections ≠ []) (hlegal : ∀ s ∈ sections, s.Legal)
    (hbytes : rPacket.bytes = embedder.run [] (insertions sections)) :
    (rPacket.extractEmbeddedData [] [] 0).message = .bufferOutOfBounds := by
  obtain ⟨s, ss, rfl⟩ := List.exists_cons_of_ne_nil hne
  obtain ⟨hrun, -⟩ := embedder_insertions (fun s' hs' => (hlegal s' hs').fits) []
  have hframe : rPacket.bytes = chain ss.reverse s := by
    rw [hbytes, hrun, chain, List.append_nil]
  have hlength := congrArg List.length hframe
  rw [bytes, Memory.read_length] at hlength
  have hholds : rPacket.pFrameData.Holds 0 (chain ss.reverse s) := by
    rw [Memory.Holds, ← hlength]
    exact hframe
  exact extract_filled (fun s' hs' => hlegal s' (List.mem_cons_of_mem _ (List.mem_reverse.mp hs')))
    (hlegal s List.mem_cons_self) hholds (by omega) [] []

/-! ## §4 Intact superframes -/

/-- The callbacks for an intact superframe: one for each section from the front, and then one for
    the payload. The section inserted last is at the front. -/
def GotFrame.intactCalls (rPacket : GotFrame) (c : CCallbacks) (sections : List Section)
    (payload : List UInt8) : List CCall :=
  (sections.reverse.map fun s => rPacket.embeddedCall c s.pPrivateData s.lContent) ++
    [.receive payload rPacket.mDataContent 0 rPacket.mPts rPacket.mDts rPacket.mCode
      rPacket.mStreamID rPacket.mSource rPacket.mFlags c.mUnsafePointer]

/-- An unbroken superframe with the flag for sections, and both callbacks for it. -/
structure GotFrame.Dispatched (rPacket : GotFrame) (c : CCallbacks) : Prop where
  receive : c.receive = true
  receiveEmbeddedData : c.receiveEmbeddedData = true
  inlinePayload : rPacket.mFlags &&& INLINE_PAYLOAD ≠ 0
  unbroken : rPacket.mBroken = false

section Dispatch

variable {c : CCallbacks} {rPacket : GotFrame} {payload : List UInt8} {sections : List Section}

/-- An error of the extraction drops the superframe. -/
theorem gotData_of_error (h : rPacket.Dispatched c)
    (herror : (rPacket.extractEmbeddedData [] [] 0).message ≠ .noError) :
    gotData c rPacket = [] := by
  rw [gotData, if_pos h.receive,
    if_pos ⟨h.receiveEmbeddedData, h.inlinePayload, h.unbroken⟩]
  exact if_pos herror

/-- With a payload every section arrives, and the payload behind them. -/
theorem gotData_of_payload (h : rPacket.Dispatched c) (hpayload : payload ≠ [])
    (hne : sections ≠ []) (hlegal : ∀ s ∈ sections, s.Legal)
    (hbytes : rPacket.bytes = embedder.run payload (insertions sections)) :
    gotData c rPacket = rPacket.intactCalls c sections payload := by
  obtain ⟨hmessage, hdatas, hcontents, hposition, hdrop⟩ :=
    rPacket.extract_inserted hpayload hne hlegal hbytes
  rw [gotData, if_pos h.receive,
    if_pos ⟨h.receiveEmbeddedData, h.inlinePayload, h.unbroken⟩]
  simp only [hmessage, hdatas, hcontents, ne_eq, not_true_eq_false, if_false]
  rw [if_neg (by omega), GotFrame.intactCalls, ← List.map_reverse, ← List.map_reverse,
    List.zipWith_map, List.zipWith_self]
  -- the payload is what the frame has behind the sections
  have hread : rPacket.pFrameData.read (rPacket.extractEmbeddedData [] [] 0).pPayloadDataPosition
      (rPacket.mFrameSize - (rPacket.extractEmbeddedData [] [] 0).pPayloadDataPosition) =
      payload := by
    have hholds : rPacket.pFrameData.Holds 0 rPacket.bytes := by
      rw [Memory.Holds, FrameView.bytes, Memory.read_length]
    have hinside : (rPacket.extractEmbeddedData [] [] 0).pPayloadDataPosition ≤
        rPacket.bytes.length := by
      rw [FrameView.bytes, Memory.read_length]
      omega
    have hrest := hholds.drop hinside
    rw [hdrop, Nat.zero_add, Memory.Holds] at hrest
    rw [← hposition, Nat.add_sub_cancel_left]
    exact hrest
  rw [GotFrame.receiveCall, hread, h.unbroken]
  rfl

/-- **When an intact superframe arrives.** For every payload and every sections that were put in
    front of it through the C API, the dispatcher hands out each section from the front and then
    the payload with the metadata, exactly when there is a payload. -/
theorem gotData_intact_iff (h : rPacket.Dispatched c) (hlegal : ∀ s ∈ sections, s.Legal)
    (hbuilt : BuiltFrame payload sections rPacket.bytes) :
    gotData c rPacket = rPacket.intactCalls c sections payload ↔ payload ≠ [] := by
  have hbytes := hbuilt.eq_run fun s hs => (hlegal s hs).fits
  constructor
  · rintro hintact rfl
    have herror := rPacket.extract_no_payload hbuilt.ne_nil hlegal hbytes
    rw [gotData_of_error h (by rw [herror]; decide)] at hintact
    simp [GotFrame.intactCalls] at hintact
  · intro hpayload
    exact gotData_of_payload h hpayload hbuilt.ne_nil hlegal hbytes

end Dispatch

/-- A superframe with these bytes and the flag for sections. -/
def inlineFrame (bytes : List UInt8) (hsize : bytes.length < 2 ^ 63) : GotFrame where
  toFrameView := FrameView.ofBytes bytes hsize
  mDataContent := 10
  mBroken := false
  mPts := 200
  mDts := 100
  mCode := 7
  mStreamID := 2
  mSource := 0
  mFlags := INLINE_PAYLOAD

def bothCallbacks : CCallbacks where
  receive := true
  receiveEmbeddedData := true
  mUnsafePointer := 0

theorem inlineFrame_dispatched (bytes : List UInt8) (hsize : bytes.length < 2 ^ 63) :
    (inlineFrame bytes hsize).Dispatched bothCallbacks where
  receive := rfl
  receiveEmbeddedData := rfl
  inlinePayload := by
    show INLINE_PAYLOAD &&& INLINE_PAYLOAD ≠ 0
    decide
  unbroken := rfl

/-- A section with one byte. -/
def byteSection : Section := { lContent := 1, pPrivateData := [42], padding := 0 }

theorem byteSection_legal : ∀ s ∈ [byteSection], s.Legal := by
  intro s hs
  obtain rfl := List.mem_singleton.mp hs
  exact ⟨by decide, by decide, Nat.le_of_ble_eq_true rfl⟩

/-- A section in front of one byte of payload. -/
theorem gotData_intact_byte :
    gotData bothCallbacks (inlineFrame [0x81, 0, 1, 0, 42, 9] (by decide)) =
      [.receiveEmbeddedData [42] 1 200 0, .receive [9] 10 0 200 100 7 2 0 0x10 0] := by
  have hbytes : (inlineFrame [0x81, 0, 1, 0, 42, 9] (by decide)).bytes =
      embedInFront (fun _ => 0) 0 byteSection 1 [9] := by
    decide
  have hbuilt : BuiltFrame [9] [byteSection]
      (inlineFrame [0x81, 0, 1, 0, 42, 9] (by decide)).bytes :=
    hbytes ▸ .first byteSection 1 (by decide) _ _ (by decide)
  exact (gotData_intact_iff (inlineFrame_dispatched _ _) byteSection_legal hbuilt).mpr (by decide)

/-- A section in front of nothing: the frame is dropped without a callback. -/
theorem not_gotData_intact_empty :
    let rPacket := inlineFrame [0x81, 0, 1, 0, 42] (by decide)
    BuiltFrame [] [byteSection] rPacket.bytes ∧ rPacket.Dispatched bothCallbacks ∧
      (∀ s ∈ [byteSection], s.Legal) ∧ gotData bothCallbacks rPacket = [] ∧
      gotData bothCallbacks rPacket ≠ rPacket.intactCalls bothCallbacks [byteSection] [] := by
  intro rPacket
  have hbytes : rPacket.bytes = embedInFront (fun _ => 0) 0 byteSection 1 [] := by decide
  have hbuilt : BuiltFrame [] [byteSection] rPacket.bytes :=
    hbytes ▸ .first byteSection 1 (by decide) _ _ (by decide)
  have hdispatched : rPacket.Dispatched bothCallbacks := inlineFrame_dispatched _ _
  have herror := rPacket.extract_no_payload hbuilt.ne_nil byteSection_legal
    (hbuilt.eq_run fun s hs => (byteSection_legal s hs).fits)
  have hdropped := gotData_of_error hdispatched (by rw [herror]; decide)
  refine ⟨hbuilt, hdispatched, byteSection_legal, hdropped, ?_⟩
  rw [hdropped]
  decide

end ElasticFrame
