import ElasticFrame.CApi.GotData
import ElasticFrame.EndToEnd.Gapless

/-!
# From `efp_send_data` to the Callbacks

A program puts sections in front of its payloads with `efp_add_embedded_data`, or none, and sends
the frames. At the other end of a channel, `gotData` takes each superframe apart that a receiver
hands over. What the two callbacks get is compared with what the program had.

- `Call.Carries`: what a frame is made of
- `GotFrame.Views`: a superframe as the dispatcher sees it
- `gotData_delivered`: a superframe that arrived as it was sent is taken apart into what it was made
  of
- `called_back_among_passes`, `called_back_gapless`: the callbacks of a whole run
-/

namespace ElasticFrame

open ElasticFrame.Lib

/-! ## §1 What a frame is made of -/

/-- The frame of a call is this payload with these sections in front, or the payload alone. The flag
    says which. -/
inductive Call.Carries (c : Call) : List UInt8 → List Section → Prop where
  | plain (hflag : c.lFlags &&& INLINE_PAYLOAD = 0) : Carries c c.rPacket []
  | inline {payload : List UInt8} {sections : List Section} (hpayload : payload ≠ [])
      (hlegal : ∀ s ∈ sections, s.Legal) (hbuilt : BuiltFrame payload sections c.rPacket)
      (hflag : c.lFlags &&& INLINE_PAYLOAD ≠ 0) : Carries c payload sections

/-- The callbacks that this should lead to: one for each section, the one that was put in front last
    first, and one for the payload. -/
def Call.callbacks (c : Call) (payload : List UInt8) (sections : List Section) (mSource : UInt8)
    (ctx : ℕ) : List CCall :=
  (sections.reverse.map fun s =>
      .receiveEmbeddedData s.pPrivateData s.lContent c.lPts ctx) ++
    [.receive payload c.lDataContent 0 c.lPts c.lDts c.lCode c.lStreamID mSource
      (c.lFlags &&& 0xf0) ctx]

/-! ## §2 What the dispatcher sees -/

/-- The dispatcher sees the superframe. In a cell that was never written it may see anything. -/
structure GotFrame.Views (g : GotFrame) (frame : SuperFrame) : Prop where
  frameSize : g.mFrameSize = frame.mFrameSize
  written : ∀ block, frame.pFrameData = some block → ∀ x b, block.cell x = some b →
    g.pFrameData x = b
  dataContent : g.mDataContent = frame.mDataContent
  broken : g.mBroken = frame.mBroken
  pts : g.mPts = frame.mPts
  dts : g.mDts = frame.mDts
  code : g.mCode = frame.mCode
  streamID : g.mStreamID = frame.mStreamID
  source : g.mSource = frame.mSource
  flags : g.mFlags = frame.mFlags

/-- A view of a superframe, with what stands in memory where it was not written. -/
def SuperFrame.seen (frame : SuperFrame) (memory : Memory) (size_lt : frame.mFrameSize < 2 ^ 63) :
    GotFrame where
  mFrameSize := frame.mFrameSize
  pFrameData := fun x => (frame.pFrameData.bind fun block => block.cell x).getD (memory x)
  size_lt := size_lt
  mDataContent := frame.mDataContent
  mBroken := frame.mBroken
  mPts := frame.mPts
  mDts := frame.mDts
  mCode := frame.mCode
  mStreamID := frame.mStreamID
  mSource := frame.mSource
  mFlags := frame.mFlags

theorem SuperFrame.views_seen (frame : SuperFrame) (memory : Memory)
    (size_lt : frame.mFrameSize < 2 ^ 63) : (frame.seen memory size_lt).Views frame where
  frameSize := rfl
  written := by
    intro block hblock x b hcell
    simp [seen, hblock, hcell]
  dataContent := rfl
  broken := rfl
  pts := rfl
  dts := rfl
  code := rfl
  streamID := rfl
  source := rfl
  flags := rfl

/-- Views of all superframes that were handed over. -/
def seenFrames (hs : List (HandOver (ℕ × ℕ))) (memory : Memory)
    (size_lt : ∀ x ∈ hs, x.frame.mFrameSize < 2 ^ 63) : List GotFrame :=
  hs.pmap (fun x hx => x.frame.seen memory hx) size_lt

theorem views_seenFrames (hs : List (HandOver (ℕ × ℕ))) (memory : Memory)
    (size_lt : ∀ x ∈ hs, x.frame.mFrameSize < 2 ^ 63) :
    List.Forall₂ GotFrame.Views (seenFrames hs memory size_lt) (hs.map HandOver.frame) := by
  induction hs with
  | nil => exact .nil
  | cons x hs ih =>
    exact .cons (x.frame.views_seen memory _) (ih fun y hy => size_lt y (List.mem_cons_of_mem x hy))

/-- The flag is one of the bits that the header carries. -/
theorem flag_kept (f : UInt8) : (f &&& 0xf0) &&& INLINE_PAYLOAD = f &&& INLINE_PAYLOAD := by
  obtain ⟨f⟩ := f
  revert f
  decide +kernel

section Seen

variable {g : GotFrame} {frame : SuperFrame} {call : Call}

/-- **The bytes of a superframe that arrived as it was sent.** -/
theorem GotFrame.Views.bytes_eq (h : g.Views frame) (hdelivered : call.DeliveredAs frame) :
    g.bytes = call.rPacket := by
  obtain ⟨block, hblock, hsize, -, hread⟩ := hdelivered.data
  have hlength : g.bytes.length = call.rPacket.length := by
    rw [FrameView.bytes, Memory.read_length, h.frameSize, hsize]
  apply List.ext_getElem hlength
  intro i hi hi'
  -- the cell was written, so the dispatcher sees its byte
  have hcell : block.cell i = some call.rPacket[i] := by
    have hat := congrArg (fun cells => cells[i]?) hread
    simpa [Block.read, hi', List.getElem?_range hi'] using hat
  have hseen := h.written block hblock i _ hcell
  simpa [FrameView.bytes, Memory.read] using hseen

/-- **A superframe that arrived as it was sent is taken apart into what it was made of.** -/
theorem gotData_delivered {c : CCallbacks} (hreceive : c.receive = true)
    (hembedded : c.receiveEmbeddedData = true) {payload : List UInt8} {sections : List Section}
    (hcarries : call.Carries payload sections) (hdelivered : call.DeliveredAs frame)
    (h : g.Views frame) :
    gotData c g = call.callbacks payload sections g.mSource c.mUnsafePointer := by
  have hbytes := h.bytes_eq hdelivered
  have hbroken : g.mBroken = false := h.broken.trans hdelivered.whole
  have hflags : g.mFlags = call.lFlags &&& 0xf0 := h.flags.trans hdelivered.flags
  have hpts := h.pts.trans hdelivered.pts
  have hdts := h.dts.trans hdelivered.dts
  have hcode := h.code.trans hdelivered.code
  have hcontent := h.dataContent.trans hdelivered.content
  have hstream := h.streamID.trans hdelivered.stream
  cases hcarries with
  | plain hflag =>
    have hnone : g.mFlags &&& INLINE_PAYLOAD = 0 := by rw [hflags, flag_kept, hflag]
    have hread : g.pFrameData.read 0 g.mFrameSize = call.rPacket := hbytes
    rw [gotData, if_pos hreceive, if_neg fun hsections => hsections.2.1 hnone,
      GotFrame.receiveCall, Nat.sub_zero, hread]
    simp [Call.callbacks, hcontent, hbroken, hpts, hdts, hcode, hstream, hflags]
  | inline hpayload hlegal hbuilt hflag =>
    have hdispatched : g.Dispatched c :=
      ⟨hreceive, hembedded, by rw [hflags, flag_kept]; exact hflag, hbroken⟩
    have hrun := hbuilt.eq_run fun s hs => (hlegal s hs).fits
    rw [gotData_of_payload hdispatched hpayload hbuilt.ne_nil hlegal (hbytes.trans hrun)]
    simp [GotFrame.intactCalls, GotFrame.embeddedCall, Call.callbacks, hcontent, hpts, hdts, hcode,
      hstream, hflags]

/-- A broken superframe goes to the receive callback as it is. -/
theorem gotData_broken {c : CCallbacks} (hreceive : c.receive = true) (hbroken : g.mBroken = true) :
    gotData c g = [g.receiveCall c 0] := by
  rw [gotData, if_pos hreceive, if_neg]
  rintro ⟨-, -, hwhole⟩
  exact absurd (hbroken.symm.trans hwhole) (by decide)

end Seen

/-! ## §3 The callbacks of a run -/

section Runs

variable {T : Transmission} {B H : UInt32} {mode : EFPReceiverMode} {es : List (Event (ℕ × ℕ))}

/-- What the callbacks get of a superframe. -/
inductive CalledBack (T : Transmission) (as : List (Arrival (ℕ × ℕ))) (payload : ℕ → List UInt8)
    (sections : ℕ → List Section) (c : CCallbacks) (k : ℕ) (g : GotFrame) : Prop where
  /-- A broken one goes to the receive callback as it is, marked as broken. -/
  | broken (hbroken : g.mBroken = true) (hcalls : gotData c g = [g.receiveCall c 0])
  /-- An unbroken one came whole, and is taken apart into what it was made of. -/
  | whole (hbroken : g.mBroken = false) (hreceived : T.Received as k)
      (hcalls : gotData c g =
        (T.calls k).callbacks (payload k) (sections k) g.mSource c.mUnsafePointer)

/-- **What the callbacks get of a superframe that was handed over.** -/
theorem Interleaved.calledBack (h : Interleaved T B H mode es) {payload : ℕ → List UInt8}
    {sections : ℕ → List Section} (hcarries : ∀ k, (T.calls k).Carries (payload k) (sections k))
    {c : CCallbacks} (hreceive : c.receive = true) (hembedded : c.receiveEmbeddedData = true)
    {x : HandOver (ℕ × ℕ)} (hx : x ∈ handOvers B H mode es) {k : ℕ} (hk : x.superframe = some k)
    {g : GotFrame} (hviews : g.Views x.frame) :
    CalledBack T (arrivals es) payload sections c k g := by
  cases hbroken : g.mBroken with
  | true => exact .broken hbroken (gotData_broken hreceive hbroken)
  | false =>
    -- an unbroken superframe is what was sent, and that is what the sections were built into
    have hwhole : x.frame.mBroken = false := hviews.broken.symm.trans hbroken
    have hdelivered := h.serving.content x hx k hk hwhole
    exact .whole hbroken (h.received hx hk hwhole)
      (gotData_delivered hreceive hembedded (hcarries k) hdelivered hviews)

/-- **Without a gap.** In head-of-line mode, when no pass finds a deadline passed, the callbacks are
    those of superframes that were sent one after the other: all of their sections and payloads, and
    nothing else. -/
theorem called_back_gapless (hhol : H ≠ 0) (h : Interleaved T B H mode es)
    (hindex : ∀ a ∈ arrivals es, a.superframe < 2 ^ 64 - 1) (hquiet : QuietPasses B H mode es)
    {payload : ℕ → List UInt8} {sections : ℕ → List Section}
    (hcarries : ∀ k, (T.calls k).Carries (payload k) (sections k)) {c : CCallbacks}
    (hreceive : c.receive = true) (hembedded : c.receiveEmbeddedData = true)
    {hs : List (HandOver (ℕ × ℕ))} (hbegins : hs <+: handOvers B H mode es) {gs : List GotFrame}
    (hviews : List.Forall₂ GotFrame.Views gs (hs.map HandOver.frame)) :
    ∃ first, gs.map (gotData c) =
      List.zipWith (fun k g => (T.calls k).callbacks (payload k) (sections k) g.mSource
        c.mUnsafePointer) (List.range' first gs.length) gs := by
  obtain ⟨first, count, hrow⟩ := h.inARow hhol hindex hquiet
  have hlength : gs.length = hs.length := hviews.length_eq.trans (List.length_map _)
  refine ⟨first, List.ext_getElem (by simp) fun i hi hi' => ?_⟩
  have hin : i < gs.length := by simpa using hi
  have his : i < hs.length := hlength ▸ hin
  have hmem := hbegins.subset (List.getElem_mem his)
  -- the superframe at this place of the row
  have hk : hs[i].superframe = some (first + i) := by
    have hbegin := hbegins.map HandOver.superframe
    rw [hrow.order] at hbegin
    have hat := hbegin.getElem (i := i) (by simpa using his)
    simpa using hat
  have hview : gs[i].Views hs[i].frame := by
    have hat := hviews.get (i := i) hin (by simpa using his)
    simpa using hat
  have hback := h.calledBack hcarries hreceive hembedded hmem hk hview
  have hwhole : gs[i].mBroken = false := hview.broken.trans (hrow.unbroken _ hmem)
  cases hback with
  | broken hbroken => exact absurd (hbroken.symm.trans hwhole) (by decide)
  | whole _ _ hcalls => simpa using hcalls

end Runs

/-! ## §4 One section in front of one byte -/

/-- A call with a section of one byte in front of one byte of payload. -/
def inlineCall : Call :=
  { Transmission.oneByte with rPacket := [0x81, 0, 1, 0, 42, 9], lFlags := INLINE_PAYLOAD }

theorem inlineCall_carries : inlineCall.Carries [9] [byteSection] := by
  have hbytes : inlineCall.rPacket = embedInFront (fun _ => 0) 0 byteSection 1 [9] := by decide
  exact .inline (by decide) byteSection_legal
    (hbytes ▸ .first byteSection 1 (by decide) _ _ (by decide)) (by decide)

theorem inlineCall_accepted : (Sender.new 255).Accepts inlineCall where
  pts := by decide
  dts := by decide
  code := by decide
  stream := by decide
  diff := by decide
  size := by decide

/-- A transmission of such calls. -/
def inlineEach : Transmission :=
  .ofAccepted 255 0 (fun _ => inlineCall) (Nat.le_refl _) fun _ => inlineCall_accepted

/-- The only fragment of a superframe arrives. -/
def inlineArrival (k : ℕ) : Event (ℕ × ℕ) :=
  .receiveFragment
    { label := (k, 0)
      pSubPacket := (inlineEach.packets k).flatten
      lFromSource := 3
      amb := { clockOpen := 0, clockPass := 0 } }

/-- The second superframe arrives before the first one. -/
def inlineRun : List (Event (ℕ × ℕ)) :=
  [inlineArrival 1, .receiverWorkerPass 10000, inlineArrival 0, .receiverWorkerPass 20000]

theorem inlineRun_interleaved : Interleaved inlineEach 100 50 .THREADED inlineRun where
  channel := { fresh := rfl, emitted := by decide +kernel, start := by decide, near := by decide
               late := by decide }
  free := by
    intro s a htakes hactive
    simp only [inlineRun, Machine.takes_cons_iff, Machine.not_takes_nil, or_false] at htakes
    rcases htakes with ⟨rfl, h⟩ | ⟨rfl, h⟩ | ⟨rfl, h⟩ | ⟨rfl, h⟩
    all_goals cases h
    all_goals exact absurd hactive (by decide +kernel)
  allocates := by decide

theorem inlineRun_sizes :
    ∀ x ∈ handOvers 100 50 .THREADED inlineRun, x.frame.mFrameSize < 2 ^ 63 := by
  decide +kernel

theorem inlineRun_quiet : QuietPasses 100 50 .THREADED inlineRun := by
  refine quietPasses_of_short (t := 0) (fun a ha => ?_) fun e he lTimeNow hmakes => ?_
  · simp only [inlineRun, inlineArrival, List.mem_cons, Event.receiveFragment.injEq,
      List.not_mem_nil, or_false, reduceCtorEq, false_or] at ha
    rcases ha with rfl | rfl <;> decide
  · have hdeadline : (20000 : ℤ) < 0 + microseconds 100 + microseconds 50 := by decide
    simp only [inlineRun, inlineArrival, List.mem_cons, List.not_mem_nil, or_false] at he
    rcases he with rfl | rfl | rfl | rfl <;> cases hmakes
    all_goals first
      | omega
      | exact absurd ‹EFPReceiverMode.THREADED = _› (by decide)

/-- They are called back in order. -/
theorem called_back_gapless_inline :
    let gs := seenFrames (handOvers 100 50 .THREADED inlineRun) (fun _ => 0) inlineRun_sizes
    ∃ first, gs.map (gotData bothCallbacks) =
      List.zipWith (fun _ g => inlineCall.callbacks [9] [byteSection] g.mSource 0)
        (List.range' first gs.length) gs := by
  intro gs
  exact called_back_gapless (by decide) inlineRun_interleaved (by decide) inlineRun_quiet
    (fun _ => inlineCall_carries) (c := bothCallbacks) rfl rfl List.prefix_rfl
    (views_seenFrames _ _ _)

example : (handOvers 100 50 .THREADED inlineRun).map HandOver.superframe = [some 0, some 1] := by
  decide +kernel

end ElasticFrame
