import ElasticFrame.Embedded.Sections

/-!
# Extracting Embedded Data

`extractEmbeddedData` walks over the sections in front of a payload. It follows the sizes that it
finds, and looks at the end of the frame only after it has copied a section.

- `FrameView.extractEmbeddedData`: the loop, with the addresses that it reads
- `FrameView.Reaches`: the chain of sections that the loop walks over
- `FrameView.reads_iff`: it stays inside the frame exactly when every section of the chain does
-/

namespace ElasticFrame

open ElasticFrame.Lib

/-! ## §1 The loop -/

/-- A superframe as a pointer sees it: its size, and what stands in memory from `pFrameData` on, in
    the frame and behind it. No object is larger than `PTRDIFF_MAX`. -/
structure FrameView where
  mFrameSize : ℕ
  pFrameData : Memory
  size_lt : mFrameSize < 2 ^ 63

/-- What a call of `extractEmbeddedData` gives back, and the addresses that it read, from
    `pFrameData` on. -/
structure Extracted where
  message : ElasticFrameMessages
  pEmbeddedDataList : List (List UInt8)
  pDataContent : List UInt8
  pPayloadDataPosition : ℕ
  reads : List ℕ

namespace FrameView

variable (rPacket : FrameView)

/-- The bytes of the frame. -/
def bytes : List UInt8 := rPacket.pFrameData.read 0 rPacket.mFrameSize

/-- What reads as a header at a position. -/
def header (q : ℕ) : ElasticEmbeddedHeader :=
  ElasticEmbeddedHeader.ofBytes (rPacket.pFrameData.read q ElasticEmbeddedHeader.size)

/-- The data that this header announces. -/
def sectionData (q : ℕ) : List UInt8 :=
  rPacket.pFrameData.read (q + ElasticEmbeddedHeader.size) (rPacket.header q).mSize.toNat

/-- The position behind a section, as a `size_t`. -/
def behind (q : ℕ) : ℕ :=
  sizeT (q + ((rPacket.header q).mSize.toNat + ElasticEmbeddedHeader.size))

/-- What is left of the frame at a position. A position outside it can only wrap around into it. -/
def left (q : ℕ) : ℕ :=
  if q < rPacket.mFrameSize then rPacket.mFrameSize - q else rPacket.mFrameSize + 1

/-- Inside the address space no section wraps around. -/
theorem behind_eq {q : ℕ} (hq : q < 2 ^ 63) :
    rPacket.behind q = q + (ElasticEmbeddedHeader.size + (rPacket.header q).mSize.toNat) := by
  have hsize := (rPacket.header q).mSize.toNat_lt
  rw [behind, Nat.add_comm (UInt16.toNat _)]
  apply sizeT_of_lt
  show q + (4 + _) < 2 ^ 64
  omega

/-- Every section leaves less. -/
theorem left_behind_lt {q : ℕ} (hmore : rPacket.behind q < rPacket.mFrameSize) :
    rPacket.left (rPacket.behind q) < rPacket.left q := by
  have hlt := rPacket.size_lt
  rw [left, if_pos hmore, left]
  split
  case isTrue hq =>
    rw [rPacket.behind_eq (Nat.lt_trans hq hlt)] at hmore ⊢
    show _ - (q + (4 + _)) < _
    omega
  case isFalse => omega

/-- `extractEmbeddedData`, from a position on. -/
def extractEmbeddedData (pEmbeddedDataList : List (List UInt8)) (pDataContent : List UInt8)
    (pPayloadDataPosition : ℕ) : Extracted :=
  let lEmbeddedHeader := rPacket.header pPayloadDataPosition
  let headerReads := List.range' pPayloadDataPosition ElasticEmbeddedHeader.size
  if lEmbeddedHeader.mEmbeddedFrameType = ElasticEmbeddedFrameContent.illegal then
    { message := .illegalEmbeddedData
      pEmbeddedDataList, pDataContent, pPayloadDataPosition
      reads := headerReads }
  else
    let reads := headerReads ++ List.range' (pPayloadDataPosition + ElasticEmbeddedHeader.size)
      lEmbeddedHeader.mSize.toNat
    let pDataContent := pDataContent ++ [lEmbeddedHeader.mEmbeddedFrameType &&& 0x7f]
    let pEmbeddedDataList := pEmbeddedDataList ++ [rPacket.sectionData pPayloadDataPosition]
    let lMoreData : Bool := lEmbeddedHeader.mEmbeddedFrameType &&& 0x80 ≠ 0
    let position := rPacket.behind pPayloadDataPosition
    if rPacket.mFrameSize ≤ position then
      { message := .bufferOutOfBounds
        pEmbeddedDataList, pDataContent, pPayloadDataPosition := position, reads }
    -- the flag says the opposite of its name
    else if lMoreData then
      { message := .noError
        pEmbeddedDataList, pDataContent, pPayloadDataPosition := position, reads }
    else
      let rest := extractEmbeddedData pEmbeddedDataList pDataContent position
      { rest with reads := reads ++ rest.reads }
termination_by rPacket.left pPayloadDataPosition
decreasing_by exact rPacket.left_behind_lt (Nat.not_le.mp ‹¬ rPacket.mFrameSize ≤ _›)

/-! ## §2 What one round can do -/

variable {rPacket}

/-- The rounds of the loop. -/
inductive Round (rPacket : FrameView) (datas : List (List UInt8)) (contents : List UInt8) (q : ℕ) :
    Extracted → Prop where
  | illegal
      (hillegal : (rPacket.header q).mEmbeddedFrameType = ElasticEmbeddedFrameContent.illegal) :
      Round rPacket datas contents q
        { message := .illegalEmbeddedData
          pEmbeddedDataList := datas
          pDataContent := contents
          pPayloadDataPosition := q
          reads := List.range' q ElasticEmbeddedHeader.size }
  /-- The section reaches the end of the frame, or runs past it. -/
  | outOfBounds
      (hlegal : (rPacket.header q).mEmbeddedFrameType ≠ ElasticEmbeddedFrameContent.illegal)
      (hend : rPacket.mFrameSize ≤ rPacket.behind q) :
      Round rPacket datas contents q
        { message := .bufferOutOfBounds
          pEmbeddedDataList := datas ++ [rPacket.sectionData q]
          pDataContent := contents ++ [(rPacket.header q).mEmbeddedFrameType &&& 0x7f]
          pPayloadDataPosition := rPacket.behind q
          reads := List.range' q (ElasticEmbeddedHeader.size + (rPacket.header q).mSize.toNat) }
  | last (hlegal : (rPacket.header q).mEmbeddedFrameType ≠ ElasticEmbeddedFrameContent.illegal)
      (hinside : rPacket.behind q < rPacket.mFrameSize)
      (hlast : (rPacket.header q).mEmbeddedFrameType &&& 0x80 ≠ 0) :
      Round rPacket datas contents q
        { message := .noError
          pEmbeddedDataList := datas ++ [rPacket.sectionData q]
          pDataContent := contents ++ [(rPacket.header q).mEmbeddedFrameType &&& 0x7f]
          pPayloadDataPosition := rPacket.behind q
          reads := List.range' q (ElasticEmbeddedHeader.size + (rPacket.header q).mSize.toNat) }
  | more (hlegal : (rPacket.header q).mEmbeddedFrameType ≠ ElasticEmbeddedFrameContent.illegal)
      (hinside : rPacket.behind q < rPacket.mFrameSize)
      (hmore : (rPacket.header q).mEmbeddedFrameType &&& 0x80 = 0) (rest : Extracted)
      (hrest : rest = rPacket.extractEmbeddedData (datas ++ [rPacket.sectionData q])
        (contents ++ [(rPacket.header q).mEmbeddedFrameType &&& 0x7f]) (rPacket.behind q)) :
      Round rPacket datas contents q
        { rest with
          reads := List.range' q (ElasticEmbeddedHeader.size + (rPacket.header q).mSize.toNat) ++
            rest.reads }

/-- **Nothing else happens.** -/
theorem extractEmbeddedData_round (datas : List (List UInt8)) (contents : List UInt8) (q : ℕ) :
    rPacket.Round datas contents q (rPacket.extractEmbeddedData datas contents q) := by
  have hreads : List.range' q ElasticEmbeddedHeader.size ++
      List.range' (q + ElasticEmbeddedHeader.size) (rPacket.header q).mSize.toNat =
      List.range' q (ElasticEmbeddedHeader.size + (rPacket.header q).mSize.toNat) :=
    List.range'_append_1
  rw [extractEmbeddedData]
  simp only [hreads]
  split
  case isTrue hillegal => exact .illegal hillegal
  case isFalse hlegal =>
    split
    case isTrue hend => exact .outOfBounds hlegal hend
    case isFalse hinside =>
      have hinside := Nat.not_le.mp hinside
      split
      case isTrue hlast => exact .last hlegal hinside (of_decide_eq_true hlast)
      case isFalse hmore =>
        have hmore := not_not.mp fun hne => hmore (decide_eq_true hne)
        exact .more hlegal hinside hmore _ rfl

/-! ## §3 The chain of sections -/

/-- The end of what the header at a position announces. -/
def sectionEnd (rPacket : FrameView) (q : ℕ) : ℕ :=
  q + (ElasticEmbeddedHeader.size + (rPacket.header q).mSize.toNat)

/-- The positions of the headers that follow each other from `start` on: behind a section that is
    neither illegal nor the last one, inside the frame. -/
inductive Reaches (rPacket : FrameView) (start : ℕ) : ℕ → Prop where
  | start : Reaches rPacket start start
  | next {q : ℕ} (h : Reaches rPacket start q)
      (hlegal : (rPacket.header q).mEmbeddedFrameType ≠ ElasticEmbeddedFrameContent.illegal)
      (hmore : (rPacket.header q).mEmbeddedFrameType &&& 0x80 = 0)
      (hinside : rPacket.sectionEnd q < rPacket.mFrameSize) :
      Reaches rPacket start (rPacket.sectionEnd q)

/-- The header at a position ends inside the frame, and so does its section unless it is illegal. -/
def Inside (rPacket : FrameView) (q : ℕ) : Prop :=
  q + ElasticEmbeddedHeader.size ≤ rPacket.mFrameSize ∧
    ((rPacket.header q).mEmbeddedFrameType ≠ ElasticEmbeddedFrameContent.illegal →
      rPacket.sectionEnd q ≤ rPacket.mFrameSize)

theorem behind_eq_sectionEnd {q : ℕ} (hq : q < rPacket.mFrameSize) :
    rPacket.behind q = rPacket.sectionEnd q :=
  rPacket.behind_eq (Nat.lt_trans hq rPacket.size_lt)

/-- The chain from the second section on. -/
theorem Reaches.head {q q' : ℕ}
    (hlegal : (rPacket.header q).mEmbeddedFrameType ≠ ElasticEmbeddedFrameContent.illegal)
    (hmore : (rPacket.header q).mEmbeddedFrameType &&& 0x80 = 0)
    (hinside : rPacket.sectionEnd q < rPacket.mFrameSize)
    (h : rPacket.Reaches (rPacket.sectionEnd q) q') : rPacket.Reaches q q' := by
  induction h with
  | start => exact .next .start hlegal hmore hinside
  | next _ hlegal' hmore' hinside' ih => exact .next ih hlegal' hmore' hinside'

theorem Reaches.lt {start q : ℕ} (h : rPacket.Reaches start q)
    (hstart : start < rPacket.mFrameSize) : q < rPacket.mFrameSize := by
  cases h with
  | start => exact hstart
  | next _ _ _ hinside => exact hinside

/-- The loop comes to every position of the chain: what it does there, it does in the whole. -/
theorem Reaches.comes {start q : ℕ} (h : rPacket.Reaches start q)
    (hstart : start < rPacket.mFrameSize) (datas : List (List UInt8)) (contents : List UInt8) :
    ∃ datas' contents', (rPacket.extractEmbeddedData datas' contents' q).message =
        (rPacket.extractEmbeddedData datas contents start).message ∧
      (rPacket.extractEmbeddedData datas' contents' q).reads ⊆
        (rPacket.extractEmbeddedData datas contents start).reads := by
  induction h with
  | start => exact ⟨datas, contents, rfl, List.Subset.refl _⟩
  | @next q h hlegal hmore hinside ih =>
    obtain ⟨datas', contents', hmessage, hreads⟩ := ih
    have hbehind := behind_eq_sectionEnd (h.lt hstart)
    have hround := rPacket.extractEmbeddedData_round datas' contents' q
    generalize rPacket.extractEmbeddedData datas' contents' q = out at hround hmessage hreads
    cases hround with
    | illegal hillegal => exact absurd hillegal hlegal
    | outOfBounds _ hend => exact absurd hinside (Nat.not_lt.mpr (hbehind ▸ hend))
    | last _ _ hlast => exact absurd hmore hlast
    | more _ _ _ rest hrest =>
      rw [hbehind] at hrest
      subst hrest
      exact ⟨_, _, hmessage, fun x hx => hreads (List.mem_append_right _ hx)⟩

/-- A header is read before anything is tested. -/
theorem header_reads (datas : List (List UInt8)) (contents : List UInt8) (q : ℕ) :
    List.range' q ElasticEmbeddedHeader.size ⊆
      (rPacket.extractEmbeddedData datas contents q).reads := by
  have hsub : List.range' q ElasticEmbeddedHeader.size ⊆
      List.range' q (ElasticEmbeddedHeader.size + (rPacket.header q).mSize.toNat) :=
    List.range'_subset_right_1.mpr (Nat.le_add_right _ _)
  have hround := rPacket.extractEmbeddedData_round datas contents q
  generalize rPacket.extractEmbeddedData datas contents q = out at hround
  cases hround with
  | illegal => exact List.Subset.refl _
  | outOfBounds => exact hsub
  | last => exact hsub
  | more => exact fun x hx => List.mem_append_left _ (hsub hx)

/-- In a chain inside the frame the loop reads nothing else. -/
theorem reads_lt {q : ℕ} (hq : q < rPacket.mFrameSize)
    (hchain : ∀ q', rPacket.Reaches q q' → rPacket.Inside q') (datas : List (List UInt8))
    (contents : List UInt8) :
    ∀ x ∈ (rPacket.extractEmbeddedData datas contents q).reads, x < rPacket.mFrameSize := by
  -- induction on what is left of the frame
  induction hleft : rPacket.left q using Nat.strongRecOn generalizing q datas contents with
  | ind n ih =>
  have hbehind := behind_eq_sectionEnd hq
  obtain ⟨hheader, hsection⟩ := hchain q .start
  have hround := rPacket.extractEmbeddedData_round datas contents q
  generalize rPacket.extractEmbeddedData datas contents q = out at hround
  intro x hx
  cases hround with
  | illegal hillegal => exact Nat.lt_of_lt_of_le (List.mem_range'_1.mp hx).2 hheader
  | outOfBounds hlegal hend =>
    exact Nat.lt_of_lt_of_le (List.mem_range'_1.mp hx).2 (hsection hlegal)
  | last hlegal hinside hlast =>
    exact Nat.lt_of_lt_of_le (List.mem_range'_1.mp hx).2 (hsection hlegal)
  | more hlegal hinside hmore rest hrest =>
    rcases List.mem_append.mp hx with hx | hx
    · exact Nat.lt_of_lt_of_le (List.mem_range'_1.mp hx).2 (hsection hlegal)
    · have hless := rPacket.left_behind_lt hinside
      rw [hbehind] at hrest hinside hless
      subst hrest
      exact ih _ (hleft ▸ hless) hinside
        (fun q' h => hchain q' (Reaches.head hlegal hmore hinside h)) _ _ rfl x hx

/-- The last address of the header, and of the section, is read. -/
theorem inside_of_reads {datas : List (List UInt8)} {contents : List UInt8} {q : ℕ}
    (h : ∀ x ∈ (rPacket.extractEmbeddedData datas contents q).reads, x < rPacket.mFrameSize) :
    rPacket.Inside q := by
  have hround := rPacket.extractEmbeddedData_round datas contents q
  generalize rPacket.extractEmbeddedData datas contents q = out at hround h
  have hwhole : (∀ x ∈ List.range' q (ElasticEmbeddedHeader.size +
      (rPacket.header q).mSize.toNat), x < rPacket.mFrameSize) → rPacket.Inside q := by
    intro h
    have hend := h (q + (3 + (rPacket.header q).mSize.toNat))
      (List.mem_range'_1.mpr ⟨Nat.le_add_right _ _, by
        show _ < q + (4 + _)
        omega⟩)
    refine ⟨?_, fun _ => ?_⟩
    · show q + 4 ≤ _
      omega
    · show q + (4 + _) ≤ _
      omega
  cases hround with
  | illegal hillegal =>
    have hend := h (q + 3) (List.mem_range'_1.mpr ⟨Nat.le_add_right _ _, Nat.lt_succ_self _⟩)
    exact ⟨hend, fun hlegal => absurd hillegal hlegal⟩
  | outOfBounds => exact hwhole h
  | last => exact hwhole h
  | more => exact hwhole fun x hx => h x (List.mem_append_left _ hx)

/-- Where a section runs past the end there is an error, whatever else the header says. -/
theorem message_ne_of_past {q : ℕ} (hq : q < rPacket.mFrameSize)
    (hpast : rPacket.mFrameSize < rPacket.sectionEnd q) (datas : List (List UInt8))
    (contents : List UInt8) :
    (rPacket.extractEmbeddedData datas contents q).message ≠ .noError := by
  have hbehind := behind_eq_sectionEnd hq
  have hround := rPacket.extractEmbeddedData_round datas contents q
  generalize rPacket.extractEmbeddedData datas contents q = out at hround
  cases hround with
  | illegal => simp
  | outOfBounds => simp
  | last _ hinside => exact absurd (hbehind ▸ hinside) (Nat.lt_asymm hpast)
  | more _ hinside => exact absurd (hbehind ▸ hinside) (Nat.lt_asymm hpast)

/-- **When extraction stays inside the frame.** For every frame and every position in it the loop
    returns, and reports an error when the chain of sections runs past the end; it reads only bytes
    of the frame exactly when every section of the chain is inside the frame. -/
theorem reads_iff (rPacket : FrameView) (datas : List (List UInt8)) (contents : List UInt8)
    {start : ℕ} (hstart : start < rPacket.mFrameSize) :
    let out := rPacket.extractEmbeddedData datas contents start
    ((∃ q, rPacket.Reaches start q ∧ rPacket.mFrameSize < rPacket.sectionEnd q) →
        out.message ≠ .noError) ∧
      ((∀ x ∈ out.reads, x < rPacket.mFrameSize) ↔
        ∀ q, rPacket.Reaches start q → rPacket.Inside q) := by
  intro out
  constructor
  · rintro ⟨q, hreach, hpast⟩
    obtain ⟨datas', contents', hmessage, -⟩ := hreach.comes hstart datas contents
    rw [← hmessage]
    exact message_ne_of_past (hreach.lt hstart) hpast datas' contents'
  · constructor
    · intro hreads q hreach
      obtain ⟨datas', contents', -, hsub⟩ := hreach.comes hstart datas contents
      exact inside_of_reads fun x hx => hreads x (hsub hx)
    · exact fun hchain => reads_lt hstart hchain datas contents

/-- A frame with these bytes, in front of zeros. -/
def ofBytes (bytes : List UInt8) (hsize : bytes.length < 2 ^ 63) : FrameView where
  mFrameSize := bytes.length
  pFrameData := Memory.write (fun _ => 0) 0 bytes
  size_lt := hsize

/-- A section with one byte of data, in front of a payload of one byte, is read inside the frame.
    The section of the second frame announces nine bytes and has one: the loop reads behind the
    frame, and reports an error. -/
theorem reads_iff_section :
    let inside := ofBytes [0x81, 0, 1, 0, 42, 7] (by decide)
    let overlong := ofBytes [0x81, 0, 9, 0, 42] (by decide)
    (∀ x ∈ (inside.extractEmbeddedData [] [] 0).reads, x < inside.mFrameSize) ∧
      (overlong.extractEmbeddedData [] [] 0).message ≠ .noError ∧
      ¬ ∀ x ∈ (overlong.extractEmbeddedData [] [] 0).reads, x < overlong.mFrameSize := by
  intro inside overlong
  refine ⟨(reads_iff inside [] [] (show 0 < inside.mFrameSize by decide)).2.mpr ?_,
    (reads_iff overlong [] [] (by decide)).1 ⟨0, .start, by decide⟩, fun hreads => ?_⟩
  · intro q hreach
    -- the first section is the last one
    have hfirst : q = 0 := by
      induction hreach with
      | start => rfl
      | next _ _ hmore _ ih =>
        subst ih
        exact absurd hmore (by decide)
    subst hfirst
    exact ⟨by decide, fun _ => by decide⟩
  · have hsection := (reads_iff overlong [] [] (by decide)).2.mp hreads 0 .start
    exact absurd (hsection.2 (by decide)) (by decide)

/-- Of a frame with one byte a header of four is read. -/
theorem not_reads_lt_short :
    let rPacket := ofBytes [0x81] (by decide)
    0 < rPacket.mFrameSize ∧
      ¬ ∀ x ∈ (rPacket.extractEmbeddedData [] [] 0).reads, x < rPacket.mFrameSize := by
  intro rPacket
  refine ⟨by decide, fun hreads => ?_⟩
  have hbehind : 3 ∈ (rPacket.extractEmbeddedData [] [] 0).reads :=
    rPacket.header_reads [] [] 0 (by decide)
  exact absurd (hreads 3 hbehind) (by decide)

end FrameView

end ElasticFrame
