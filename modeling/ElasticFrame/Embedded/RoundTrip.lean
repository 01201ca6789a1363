import ElasticFrame.Embedded.Extract

/-!
# Embedded Data There and Back

What `addEmbeddedData` wrote, `extractEmbeddedData` finds, and what it finds can be written again.

- `FrameView.extract_chain`: a chain of sections in front of a payload is found section by section
- `FrameView.chain_of_extract`: where a chain is found, there is one
- `embedded_roundTrip`: both directions, for sections that are inserted one by one
-/

namespace ElasticFrame

open ElasticFrame.Lib

/-! ## §1 Types -/

/-- A content type with the top bit free is found as it is. -/
theorem content_of_le {c : UInt8} (hle : c ≤ 0x7f) : c &&& 0x7f = c ∧ c &&& 0x80 = 0 := by
  obtain ⟨c⟩ := c
  revert hle
  revert c
  decide +kernel

/-- With the bit of the last section, it is found as it was. -/
theorem content_of_last {c : UInt8} (hle : c ≤ 0x7f) :
    (c ||| 0x80) &&& 0x7f = c ∧ (c ||| 0x80) &&& 0x80 ≠ 0 ∧ c ||| 0x80 ≠ 0 := by
  obtain ⟨c⟩ := c
  revert hle
  revert c
  decide +kernel

/-- A type that was found is written again. -/
theorem content_again (t : UInt8) : (t &&& 0x80 = 0 → t &&& 0x7f = t) ∧
    (t &&& 0x80 ≠ 0 → (t &&& 0x7f) ||| 0x80 = t) := by
  obtain ⟨t⟩ := t
  revert t
  decide +kernel

/-! ## §2 A chain in front of a payload -/

/-- A chain of sections: these, and one that is marked as the last. -/
def chain (ss : List Section) (s : Section) : List UInt8 :=
  (ss.map fun s => s.bytes false).flatten ++ s.bytes true

theorem chain_cons (s' : Section) (ss : List Section) (s : Section) :
    chain (s' :: ss) s = s'.bytes false ++ chain ss s := by
  simp [chain]

namespace FrameView

variable {rPacket : FrameView}

/-- What is found where a section stands. -/
theorem section_at {q : ℕ} {s : Section} (hfits : s.Fits) {lIsLast : Bool}
    (h : rPacket.pFrameData.Holds q (s.bytes lIsLast)) :
    rPacket.header q = s.header lIsLast ∧ rPacket.sectionData q = s.pPrivateData ∧
      ElasticEmbeddedHeader.size + (rPacket.header q).mSize.toNat = (s.bytes lIsLast).length := by
  obtain ⟨hbytes, hdata⟩ := Memory.Holds.append_iff.mp h
  rw [Memory.Holds, ElasticEmbeddedHeader.toBytes_length] at hbytes
  rw [Memory.Holds, ElasticEmbeddedHeader.toBytes_length] at hdata
  have hheader : rPacket.header q = s.header lIsLast := by
    rw [header, hbytes, ElasticEmbeddedHeader.ofBytes_toBytes]
  have hsize := Section.header_size hfits lIsLast
  refine ⟨hheader, ?_, ?_⟩
  · rw [sectionData, hheader, hsize]
    exact hdata
  · rw [hheader, hsize, Section.bytes_length]

section Found

variable {s : Section} (hlegal : s.Legal) {q : ℕ} (datas : List (List UInt8))
  (contents : List UInt8)

include hlegal

/-- The last section is found, and extraction ends behind it. -/
theorem extract_last (h : rPacket.pFrameData.Holds q (s.bytes true))
    (hinside : q + (s.bytes true).length < rPacket.mFrameSize) :
    rPacket.extractEmbeddedData datas contents q =
      { message := .noError
        pEmbeddedDataList := datas ++ [s.pPrivateData]
        pDataContent := contents ++ [s.lContent]
        pPayloadDataPosition := q + (s.bytes true).length
        reads := List.range' q (s.bytes true).length } := by
  obtain ⟨hheader, hdata, hlength⟩ := section_at hlegal.fits h
  obtain ⟨hcontent, hbit, hne⟩ := content_of_last hlegal.le
  have htype : (rPacket.header q).mEmbeddedFrameType = s.lContent ||| 0x80 := by
    rw [hheader]
    rfl
  have hbehind := behind_eq_sectionEnd (Nat.lt_of_le_of_lt (Nat.le_add_right _ _) hinside)
  rw [sectionEnd, hlength] at hbehind
  have hround := rPacket.extractEmbeddedData_round datas contents q
  generalize rPacket.extractEmbeddedData datas contents q = out at hround ⊢
  cases hround with
  | illegal hillegal => exact absurd (htype.symm.trans hillegal) hne
  | outOfBounds _ hpast => exact absurd hinside (Nat.not_lt.mpr (hbehind ▸ hpast))
  | last => rw [htype, hcontent, hdata, hbehind, hlength]
  | more _ _ hmore => exact absurd (htype ▸ hmore) hbit

/-- Another section is found, and extraction goes on behind it. -/
theorem extract_more (h : rPacket.pFrameData.Holds q (s.bytes false))
    (hinside : q + (s.bytes false).length < rPacket.mFrameSize) :
    let rest := rPacket.extractEmbeddedData (datas ++ [s.pPrivateData]) (contents ++ [s.lContent])
      (q + (s.bytes false).length)
    rPacket.extractEmbeddedData datas contents q =
      { rest with reads := List.range' q (s.bytes false).length ++ rest.reads } := by
  intro rest
  obtain ⟨hheader, hdata, hlength⟩ := section_at hlegal.fits h
  obtain ⟨hcontent, hbit⟩ := content_of_le hlegal.le
  have htype : (rPacket.header q).mEmbeddedFrameType = s.lContent := by
    rw [hheader]
    rfl
  have hbehind := behind_eq_sectionEnd (Nat.lt_of_le_of_lt (Nat.le_add_right _ _) hinside)
  rw [sectionEnd, hlength] at hbehind
  have hround := rPacket.extractEmbeddedData_round datas contents q
  generalize rPacket.extractEmbeddedData datas contents q = out at hround ⊢
  cases hround with
  | illegal hillegal =>
    have hpos := hlegal.pos
    rw [htype.symm.trans hillegal] at hpos
    exact absurd hpos (by decide)
  | outOfBounds _ hpast => exact absurd hinside (Nat.not_lt.mpr (hbehind ▸ hpast))
  | last _ _ hset => exact absurd (htype ▸ hbit) hset
  | more _ _ _ rest' hrest =>
    rw [hbehind, htype, hcontent, hdata] at hrest
    subst hrest
    rw [hlength]

end Found

/-- **A chain is found section by section**, and exactly its bytes are read. -/
theorem extract_chain {ss : List Section} {s : Section} (hlegal : ∀ s' ∈ ss, s'.Legal)
    (hlast : s.Legal) {q : ℕ} (h : rPacket.pFrameData.Holds q (chain ss s))
    (hinside : q + (chain ss s).length < rPacket.mFrameSize) (datas : List (List UInt8))
    (contents : List UInt8) :
    rPacket.extractEmbeddedData datas contents q =
      { message := .noError
        pEmbeddedDataList := datas ++ (ss.map Section.pPrivateData ++ [s.pPrivateData])
        pDataContent := contents ++ (ss.map Section.lContent ++ [s.lContent])
        pPayloadDataPosition := q + (chain ss s).length
        reads := List.range' q (chain ss s).length } := by
  induction ss generalizing q datas contents with
  | nil => exact extract_last hlast datas contents h hinside
  | cons s' ss ih =>
    rw [chain_cons] at h hinside ⊢
    rw [List.length_append] at hinside
    obtain ⟨hfront, hrest⟩ := Memory.Holds.append_iff.mp h
    -- the rest of the chain stands behind the first section
    have htail := ih (fun s'' hs'' => hlegal s'' (List.mem_cons_of_mem _ hs'')) hrest (by omega)
      (datas ++ [s'.pPrivateData]) (contents ++ [s'.lContent])
    rw [extract_more (hlegal s' List.mem_cons_self) datas contents hfront (by omega), htail]
    simp [List.range'_append_1, Nat.add_assoc]

/-! ## §3 Where a chain is found -/

/-- The section that stands at a position, with its padding. -/
def sectionAt (rPacket : FrameView) (q : ℕ) : Section where
  lContent := (rPacket.header q).mEmbeddedFrameType &&& 0x7f
  pPrivateData := rPacket.sectionData q
  padding := byteAt (rPacket.pFrameData.read q ElasticEmbeddedHeader.size) 1

theorem sectionAt_fits (q : ℕ) : (rPacket.sectionAt q).Fits := by
  show (rPacket.sectionData q).length ≤ 65535
  rw [sectionData, Memory.read_length]
  exact Nat.le_of_lt_succ (rPacket.header q).mSize.toNat_lt

/-- It stands there when its header is that of the section. -/
theorem holds_sectionAt (q : ℕ) (lIsLast : Bool)
    (htype : ((rPacket.sectionAt q).header lIsLast).mEmbeddedFrameType =
      (rPacket.header q).mEmbeddedFrameType) :
    rPacket.pFrameData.Holds q ((rPacket.sectionAt q).bytes lIsLast) ∧
      ElasticEmbeddedHeader.size + (rPacket.header q).mSize.toNat =
        ((rPacket.sectionAt q).bytes lIsLast).length := by
  have hsize := Section.header_size (rPacket.sectionAt_fits q) lIsLast
  have hlength : (rPacket.sectionAt q).pPrivateData.length =
      (rPacket.header q).mSize.toNat := Memory.read_length _ _ _
  have hheader : (rPacket.sectionAt q).header lIsLast = rPacket.header q :=
    ElasticEmbeddedHeader.ext htype (UInt16.toNat_inj.mp (hsize.trans hlength))
  constructor
  · apply Memory.Holds.append_iff.mpr
    rw [Memory.Holds, Memory.Holds, ElasticEmbeddedHeader.toBytes_length, hheader, hlength]
    exact ⟨(ElasticEmbeddedHeader.toBytes_ofBytes (Memory.read_length _ _ _)).symm, rfl⟩
  · rw [Section.bytes_length, hlength]

/-- **Where extraction succeeds there is a chain**, and it was found. -/
theorem chain_of_extract {q : ℕ} (hq : q < 2 ^ 63) {datas : List (List UInt8)}
    {contents : List UInt8}
    (hsuccess : (rPacket.extractEmbeddedData datas contents q).message = .noError) :
    ∃ ss s, (∀ s' ∈ s :: ss, s'.Fits) ∧ rPacket.pFrameData.Holds q (chain ss s) ∧
      q + (chain ss s).length < rPacket.mFrameSize ∧
      (rPacket.extractEmbeddedData datas contents q).pEmbeddedDataList =
        datas ++ (ss.map Section.pPrivateData ++ [s.pPrivateData]) ∧
      (rPacket.extractEmbeddedData datas contents q).pDataContent =
        contents ++ (ss.map Section.lContent ++ [s.lContent]) ∧
      (rPacket.extractEmbeddedData datas contents q).pPayloadDataPosition =
        q + (chain ss s).length := by
  -- induction on what is left of the frame
  induction hleft : rPacket.left q using Nat.strongRecOn generalizing q datas contents with
  | ind n ih =>
  have hbehind := rPacket.behind_eq hq
  have hagain := content_again (rPacket.header q).mEmbeddedFrameType
  have hround := rPacket.extractEmbeddedData_round datas contents q
  generalize rPacket.extractEmbeddedData datas contents q = out at hround hsuccess ⊢
  cases hround with
  | illegal => exact absurd hsuccess (by simp)
  | outOfBounds => exact absurd hsuccess (by simp)
  | last hlegal hinside hlast =>
    obtain ⟨hholds, hlength⟩ := rPacket.holds_sectionAt q true (hagain.2 hlast)
    rw [hlength] at hbehind
    rw [hbehind] at hinside ⊢
    refine ⟨[], rPacket.sectionAt q, ?_, hholds, hinside, rfl, rfl, rfl⟩
    intro s' hs'
    obtain rfl := List.mem_singleton.mp hs'
    exact rPacket.sectionAt_fits q
  | more hlegal hinside hmore rest hrest =>
    obtain ⟨hholds, hlength⟩ := rPacket.holds_sectionAt q false (hagain.1 hmore)
    have hless := rPacket.left_behind_lt hinside
    rw [hlength] at hbehind
    rw [hbehind] at hinside hrest hless
    subst hrest
    obtain ⟨ss, s, hfits, hchain, hend, hdatas, hcontents, hposition⟩ :=
      ih _ (hleft ▸ hless) (Nat.lt_trans hinside rPacket.size_lt) hsuccess rfl
    refine ⟨rPacket.sectionAt q :: ss, s, ?_, ?_, ?_, ?_, ?_, ?_⟩
    · intro s' hs'
      rcases List.mem_cons.mp hs' with rfl | hs'
      · exact hfits _ List.mem_cons_self
      · rcases List.mem_cons.mp hs' with rfl | hs'
        · exact rPacket.sectionAt_fits q
        · exact hfits s' (List.mem_cons_of_mem _ hs')
    · rw [chain_cons]
      exact Memory.Holds.append_iff.mpr ⟨hholds, hchain⟩
    · rw [chain_cons, List.length_append, ← Nat.add_assoc]
      exact hend
    · rw [hdatas]
      simp [sectionAt]
    · rw [hcontents]
      simp [sectionAt]
    · rw [hposition, chain_cons, List.length_append, Nat.add_assoc]

/-- The bytes of a frame behind a position. -/
theorem bytes_split (rPacket : FrameView) {bytes : List UInt8}
    (h : rPacket.pFrameData.Holds 0 bytes) (hinside : bytes.length ≤ rPacket.mFrameSize) :
    rPacket.bytes = bytes ++ rPacket.bytes.drop bytes.length := by
  have hsplit : rPacket.bytes = bytes ++ rPacket.pFrameData.read bytes.length
      (rPacket.mFrameSize - bytes.length) := by
    rw [FrameView.bytes, ← Nat.add_sub_cancel' hinside, Memory.read_append, h, Nat.zero_add,
      Nat.add_sub_cancel_left]
  rw [hsplit, List.drop_left]

/-! ## §4 There and back -/

/-- What was inserted is found, in reverse order. -/
theorem extract_inserted (rPacket : FrameView) {payload : List UInt8} {sections : List Section}
    (hpayload : payload ≠ []) (hne : sections ≠ []) (hlegal : ∀ s ∈ sections, s.Legal)
    (hbytes : rPacket.bytes = embedder.run payload (insertions sections)) :
    let out := rPacket.extractEmbeddedData [] [] 0
    out.message = .noError ∧
      out.pEmbeddedDataList = (sections.map Section.pPrivateData).reverse ∧
      out.pDataContent = (sections.map Section.lContent).reverse ∧
      out.pPayloadDataPosition + payload.length = rPacket.mFrameSize ∧
      rPacket.bytes.drop out.pPayloadDataPosition = payload := by
  obtain ⟨s, ss, rfl⟩ := List.exists_cons_of_ne_nil hne
  obtain ⟨hrun, -⟩ := embedder_insertions (fun s' hs' => (hlegal s' hs').fits) payload
  have hframe : rPacket.bytes = chain ss.reverse s ++ payload := by
    rw [hbytes, hrun, chain, List.append_assoc]
  have hlength := congrArg List.length hframe
  rw [bytes, Memory.read_length, List.length_append] at hlength
  have hpos := List.length_pos_of_ne_nil hpayload
  -- the chain stands at the front of the frame
  have hholds : rPacket.pFrameData.Holds 0 (chain ss.reverse s ++ payload) := by
    rw [← hframe, Memory.Holds, bytes, Memory.read_length]
  have hextract := rPacket.extract_chain
    (fun s' hs' => hlegal s' (List.mem_cons_of_mem _ (List.mem_reverse.mp hs')))
    (hlegal s List.mem_cons_self) (Memory.Holds.append_iff.mp hholds).1 (by omega) [] []
  rw [hextract, hframe, Nat.zero_add]
  exact ⟨rfl, by simp, by simp, hlength.symm, List.drop_left⟩

/-- What was found can be inserted again. -/
theorem insert_extracted (rPacket : FrameView) :
    let out := rPacket.extractEmbeddedData [] [] 0
    out.message = .noError → ∃ sections : List Section,
      sections.map Section.pPrivateData = out.pEmbeddedDataList.reverse ∧
      sections.map Section.lContent = out.pDataContent.reverse ∧
      (∀ message ∈ embedder.outputs (rPacket.bytes.drop out.pPayloadDataPosition)
        (insertions sections), message = .noError) ∧
      embedder.run (rPacket.bytes.drop out.pPayloadDataPosition) (insertions sections) =
        rPacket.bytes := by
  intro out hsuccess
  obtain ⟨ss, s, hfits, hholds, hinside, hdatas, hcontents, hposition⟩ :=
    rPacket.chain_of_extract (by decide) hsuccess
  rw [Nat.zero_add] at hinside hposition
  have hframe := rPacket.bytes_split hholds (Nat.le_of_lt hinside)
  have hfits' : ∀ s' ∈ s :: ss.reverse, s'.Fits := by
    intro s' hs'
    apply hfits
    rcases List.mem_cons.mp hs' with rfl | hs'
    · exact List.mem_cons_self
    · exact List.mem_cons_of_mem _ (List.mem_reverse.mp hs')
  obtain ⟨hrun, hmessages⟩ := embedder_insertions hfits'
    (rPacket.bytes.drop out.pPayloadDataPosition)
  refine ⟨s :: ss.reverse, ?_, ?_, hmessages, ?_⟩
  · rw [hdatas]
    simp
  · rw [hcontents]
    simp
  · rw [hrun, List.reverse_reverse, ← List.append_assoc]
    change chain ss s ++ _ = _
    rw [hposition]
    exact hframe.symm

end FrameView

/-! ## §5 The round trip -/

/-- **Round trip of embedded data.** Sections that are inserted one by one in front of a payload,
    the first of them marked as the last, are all accepted; and on a frame with these bytes
    extraction finds them in reverse order and ends at the payload. Whenever extraction succeeds on
    a frame, inserting what it found in front of the rest writes the same bytes, for some
    padding. -/
theorem embedded_roundTrip :
    (∀ (payload : List UInt8) (sections : List Section), payload ≠ [] → sections ≠ [] →
      (∀ s ∈ sections, s.Legal) →
      (∀ message ∈ embedder.outputs payload (insertions sections), message = .noError) ∧
      ∀ rPacket : FrameView, rPacket.bytes = embedder.run payload (insertions sections) →
        let out := rPacket.extractEmbeddedData [] [] 0
        out.message = .noError ∧
          out.pEmbeddedDataList = (sections.map Section.pPrivateData).reverse ∧
          out.pDataContent = (sections.map Section.lContent).reverse ∧
          out.pPayloadDataPosition + payload.length = rPacket.mFrameSize ∧
          rPacket.bytes.drop out.pPayloadDataPosition = payload) ∧
    ∀ rPacket : FrameView,
      let out := rPacket.extractEmbeddedData [] [] 0
      out.message = .noError → ∃ sections : List Section,
        sections.map Section.pPrivateData = out.pEmbeddedDataList.reverse ∧
        sections.map Section.lContent = out.pDataContent.reverse ∧
        (∀ message ∈ embedder.outputs (rPacket.bytes.drop out.pPayloadDataPosition)
          (insertions sections), message = .noError) ∧
        embedder.run (rPacket.bytes.drop out.pPayloadDataPosition) (insertions sections) =
          rPacket.bytes := by
  refine ⟨fun payload sections hpayload hne hlegal => ⟨?_, ?_⟩, ?_⟩
  · obtain ⟨s, ss, rfl⟩ := List.exists_cons_of_ne_nil hne
    exact (embedder_insertions (fun s' hs' => (hlegal s' hs').fits) payload).2
  · exact fun rPacket hbytes => rPacket.extract_inserted hpayload hne hlegal hbytes
  · exact fun rPacket => rPacket.insert_extracted

/-- A section with a byte of data and one without any, in front of a payload of one byte. -/
def twoSections : List Section :=
  [{ lContent := 1, pPrivateData := [42], padding := 0 },
    { lContent := 0x7f, pPrivateData := [], padding := 9 }]

theorem embedded_roundTrip_two :
    let rPacket := FrameView.ofBytes (embedder.run [7] (insertions twoSections)) (by decide)
    let out := rPacket.extractEmbeddedData [] [] 0
    out.message = .noError ∧ out.pEmbeddedDataList = [[], [42]] ∧ out.pDataContent = [0x7f, 1] ∧
      out.pPayloadDataPosition = 9 ∧ rPacket.bytes.drop out.pPayloadDataPosition = [7] ∧
      ∃ sections, embedder.run (rPacket.bytes.drop out.pPayloadDataPosition)
        (insertions sections) = rPacket.bytes := by
  intro rPacket out
  have hlegal : ∀ s ∈ twoSections, s.Legal := by
    intro s hs
    simp only [twoSections, List.mem_cons, List.not_mem_nil, or_false] at hs
    rcases hs with rfl | rfl
    · exact ⟨by decide, by decide, Nat.le_of_ble_eq_true rfl⟩
    · exact ⟨by decide, by decide, Nat.le_of_ble_eq_true rfl⟩
  obtain ⟨hmessage, hdatas, hcontents, hposition, hdrop⟩ :=
    (embedded_roundTrip.1 [7] twoSections (by decide) (by decide) hlegal).2 rPacket (by decide)
  obtain ⟨sections, -, -, -, hrun⟩ := embedded_roundTrip.2 rPacket hmessage
  exact ⟨hmessage, hdatas, hcontents, Nat.add_right_cancel hposition, hdrop, sections, hrun⟩

end ElasticFrame
