import ElasticFrame.Receiver.Accounting
import ElasticFrame.Lib.WriteLog

/-!
# The Stream Table

Type2 fragments write the code and the content type of their stream into `mStreams`, and every
bucket takes them from there when it opens. A superframe whose type2 fragment never came has
the values of an earlier superframe of its stream.

- `streams_run`: the table is the log of the accepted type2 fragments
- `Borrowed`: what a bucket without a type2 fragment holds, as a matter of the history before it
  was opened
- `metadata_without_type2`: the metadata of every superframe that is handed out without a type2
  fragment

Nothing is assumed about the packets. Allocation has to succeed: a type2 fragment that is refused
for want of memory has written the table already.
-/

namespace ElasticFrame

open ElasticFrame.Lib

/-! ## §1 Accepted type2 fragments -/

section History

variable {τ : Type}

/-- The header of the type2 fragment that an event brings. -/
def Event.type2Header : Event τ → Option ElasticFrameType2
  | .receiveFragment a =>
      match Fragment.ofPacket a.pSubPacket with
      | some (.type2 h _) => some h
      | _ => none
  | _ => none

/-- The header of a type2 fragment that was accepted: its call returned `noError`. -/
def acceptedType2 (e : Event τ) (o : Report τ) : Option ElasticFrameType2 :=
  if o.message = some .noError then e.type2Header else none

variable (B H : UInt32) (mode : EFPReceiverMode)

/-- The type2 fragments that were accepted in a run, in order. -/
def acceptedType2s (es : List (Event τ)) : List ElasticFrameType2 :=
  (es.zip ((receiverMachine τ).outputs (Traced.fresh τ B H mode) es)).filterMap fun x =>
    acceptedType2 x.1 x.2

/-- What the last of the given type2 fragments of a stream said about it. -/
def lastOfStream : List ElasticFrameType2 → UInt8 → Stream :=
  WriteLog.table ElasticFrameType2.hStreamID
    (fun h => { mCode := h.hCode, mDataContent := h.hDataContent })
    { mCode := 4294967295, mDataContent := ElasticFrameContent.unknown }

/-- The call `a` opened the bucket that slot `i` has until the last event of the run: after the
    events `pre` the slot was free, `a` brought a fragment for it, and it was in use from then
    on. -/
structure OpenedBy (pre : List (Event τ)) (a : Arrival τ) (post : List (Event τ)) (i : Slot) :
    Prop where
  fragment : ∃ f, Fragment.ofPacket a.pSubPacket = some f ∧ f.slot = i
  free : (((receiverMachine τ).run (Traced.fresh τ B H mode) pre).receiver.mBucketList i).mActive =
    false
  used : ∀ v, v <+: post → v ≠ post →
    (((receiverMachine τ).run (Traced.fresh τ B H mode)
      (pre ++ .receiveFragment a :: v)).receiver.mBucketList i).mActive = true

theorem acceptedType2s_concat (es : List (Event τ)) (e : Event τ) :
    acceptedType2s B H mode (es ++ [e]) = acceptedType2s B H mode es ++
      (acceptedType2 e ((receiverMachine τ).step
        ((receiverMachine τ).run (Traced.fresh τ B H mode) es) e).2).toList := by
  have hlength := (receiverMachine τ).outputs_length (Traced.fresh τ B H mode) es
  unfold acceptedType2s
  rw [Machine.outputs_concat, List.zip_append hlength.symm, List.filterMap_append]
  rfl

end History

/-! ## §2 The table and the log -/

/-- A fragment writes the table exactly when it is accepted, as long as there is memory. -/
theorem Receiver.unpackFragment_table (r : Receiver) (f : Fragment) (lFromSource : UInt8)
    {amb : Ambient} (halloc : amb.allocates = true) :
    (r.unpackFragment f lFromSource amb).receiver.mStreams =
      if (r.unpackFragment f lFromSource amb).message = .noError then f.noteStream r.mStreams
      else r.mStreams := by
  have hstep := r.unpackFragment_step f lFromSource amb
  generalize r.unpackFragment f lFromSource amb = u at hstep ⊢
  cases hstep with
  | tooOld hidle hold => rfl
  | refused hidle hnew hwhy =>
    -- it is misplaced, so it is of type 1 and writes nothing
    simp only [halloc, Bool.true_eq_false, if_false, false_or] at hwhy ⊢
    cases f with
    | type1 h d => rfl
    | type2 h d => exact absurd hwhy Bool.false_ne_true
    | type3 h d => exact absurd hwhy Bool.false_ne_true
  | opened hidle hnew halloc hplaced => rfl
  | outOfResources hactive hother => rfl
  | outOfBounds hactive hsame hbad => rfl
  | duplicate hactive hsame hpos hof hdup => rfl
  | added hactive hsame hpos hof hnew => rfl

section Runs

variable {τ : Type} {s : Traced τ}

theorem lastOfStream_concat (hs : List ElasticFrameType2) (h : ElasticFrameType2)
    (d : List UInt8) :
    lastOfStream (hs ++ [h]) = (Fragment.type2 h d).noteStream (lastOfStream hs) :=
  WriteLog.table_concat _ _ _ hs h

/-- **One step** of the table: it takes in the type2 fragment that the step accepted. -/
theorem Traced.step_table (hs : s.receiver.Coherent) (e : Event τ)
    (halloc : ∀ a, e = .receiveFragment a → a.amb.allocates = true)
    {log : List ElasticFrameType2} (hlog : s.receiver.mStreams = lastOfStream log) :
    (s.step e).1.receiver.mStreams =
      lastOfStream (log ++ (acceptedType2 e (s.step e).2).toList) := by
  have hparts := s.step_parts e
  generalize s.step e = out at hparts ⊢
  -- a step that accepts no fragment only makes its pass
  have hpassed : ∀ (o : Report τ) {lTimeNow : ℤ} {d : Delivered}, o.message ≠ some .noError →
      s.receiver.Passes lTimeNow d →
      (s.delivered d).receiver.mStreams = lastOfStream (log ++ (acceptedType2 e o).toList) := by
    intro o lTimeNow d hno hpass
    rw [acceptedType2, if_neg hno, Option.toList_none, List.append_nil, ← hlog]
    exact hpass.streams
  cases hparts with
  | refused a message accesses hmessage hwhy haccesses =>
    refine hpassed _ ?_ (.idle : s.receiver.Passes 0 _)
    rintro hok
    obtain rfl := Option.some.inj hok
    simp at hmessage
  | cut a hpacket hsize d hd =>
    subst hd
    exact hpassed _ (by simp) (Receiver.runIfToCompletion_passes hs.slotsDistinct _)
  | fragment a f header hpacket d hd =>
    subst hd
    have hpass := Receiver.runIfToCompletion_passes
      (hs.unpack f a.lFromSource a.amb).slotsDistinct a.amb.clockPass
    have hunpacked := s.receiver.unpackFragment_table f a.lFromSource (halloc a rfl)
    refine (hpass.streams.trans hunpacked).trans ?_
    -- accepted or not, and then of which type
    by_cases hok : (s.receiver.unpackFragment f a.lFromSource a.amb).message = .noError
    · cases f with
      | type1 h d => simp [acceptedType2, Event.type2Header, hpacket, hlog, Fragment.noteStream]
      | type2 h d =>
        simp [acceptedType2, Event.type2Header, hpacket, hlog, hok, lastOfStream_concat log h d]
      | type3 h d => simp [acceptedType2, Event.type2Header, hpacket, hlog, Fragment.noteStream]
    · simp [acceptedType2, hok, hlog]
  | runToCompletion lTimeNow d hd =>
    subst hd
    exact hpassed _ (by simp) (Receiver.runToCompletionMethod_passes hs.slotsDistinct _)
  | worker lTimeNow d hd =>
    subst hd
    exact hpassed _ (by simp) (Receiver.receiverWorkerPass_passes hs.slotsDistinct _)

variable (B H : UInt32) (mode : EFPReceiverMode)

/-- **The table is the log** of the accepted type2 fragments, in every run. -/
theorem streams_run (es : List (Event τ))
    (halloc : ∀ a, .receiveFragment a ∈ es → a.amb.allocates = true) :
    ((receiverMachine τ).run (Traced.fresh τ B H mode) es).receiver.mStreams =
      lastOfStream (acceptedType2s B H mode es) := by
  induction es using List.reverseRecOn with
  | nil => rfl
  | append_singleton es e ih =>
    have hbefore := ih fun a ha => halloc a (List.mem_append_left _ ha)
    rw [Machine.run_concat, acceptedType2s_concat]
    apply Traced.step_table (coherent_run B H mode es) e ?_ hbefore
    rintro a rfl
    exact halloc a (List.mem_append_right _ List.mem_cons_self)

/-! ## §3 Buckets without a type2 fragment -/

/-- A fragment of another type brings no time stamps and writes no entry of the table. -/
theorem Fragment.of_not_type2 (f : Fragment) (hno : ∀ h d, f ≠ .type2 h d)
    (streams : UInt8 → Stream) :
    f.mPts = UINT64_MAX ∧ f.mDts = UINT64_MAX ∧ f.noteStream streams = streams := by
  cases f with
  | type1 h d => exact ⟨rfl, rfl, rfl⟩
  | type2 h d => exact absurd rfl (hno h d)
  | type3 h d => exact ⟨rfl, rfl, rfl⟩

/-- What a bucket that slot `i` holds after the events `w` has without a type2 fragment: no PTS and
    no DTS, and the code and the content type that the last type2 fragment of its stream had when
    it was opened. -/
structure Borrowed (w : List (Event τ)) (i : Slot) (b : Bucket) (accepted : List (Arrival τ)) :
    Prop where
  pts : b.mPts = UINT64_MAX
  dts : b.mDts = UINT64_MAX
  opening : ∃ pre a post, w = pre ++ .receiveFragment a :: post ∧
    OpenedBy B H mode pre a post i ∧ accepted.head? = some a ∧
    (∃ f, Fragment.ofPacket a.pSubPacket = some f ∧ f.stream = b.mStream) ∧
    ({ mCode := b.mCode, mDataContent := b.mDataContent } : Stream) =
      lastOfStream (acceptedType2s B H mode pre) b.mStream

/-- Without a type2 fragment a bucket is as it was opened. -/
def BorrowedIfNoType2 (w : List (Event τ)) (i : Slot) (b : Bucket)
    (accepted : List (Arrival τ)) : Prop :=
  (∀ h d, .type2 h d ∉ fragments accepted) → Borrowed B H mode w i b accepted

variable {B H mode}

/-- A bucket that is in use stays borrowed while the run goes on. -/
theorem Borrowed.later {w : List (Event τ)} {i : Slot} {b : Bucket} {accepted : List (Arrival τ)}
    (h : Borrowed B H mode w i b accepted)
    (hactive : (((receiverMachine τ).run (Traced.fresh τ B H mode) w).receiver.mBucketList
      i).mActive = true) (e : Event τ) : Borrowed B H mode (w ++ [e]) i b accepted := by
  obtain ⟨hpts, hdts, pre, a, post, rfl, hopened, hrest⟩ := h
  refine ⟨hpts, hdts, pre, a, post ++ [e], by simp, ?_, hrest⟩
  refine ⟨hopened.fragment, hopened.free, fun v hv hne => ?_⟩
  -- a proper prefix of the longer run is `post` itself, or a proper prefix of it
  rcases List.prefix_concat_iff.mp hv with rfl | hv
  · exact absurd rfl hne
  · by_cases hvpost : v = post
    · exact hvpost ▸ hactive
    · exact hopened.used v hv hvpost

/-- A bucket that a call opens takes its values from the table. -/
theorem borrowed_opened {es : List (Event τ)} {a : Arrival τ} {f : Fragment}
    (hpacket : Fragment.ofPacket a.pSubPacket = some f)
    (hs : s = (receiverMachine τ).run (Traced.fresh τ B H mode) es)
    (hstreams : s.receiver.mStreams = lastOfStream (acceptedType2s B H mode es))
    (hidle : (s.receiver.mBucketList f.slot).mActive = false) :
    BorrowedIfNoType2 B H mode (es ++ [.receiveFragment a]) f.slot
      (s.receiver.openedWith f a.lFromSource a.amb) [a] := by
  intro hno
  rw [fragments_singleton hpacket] at hno
  have hopened : OpenedBy B H mode es a [] f.slot :=
    { fragment := ⟨f, hpacket, rfl⟩
      free := hs ▸ hidle
      used := fun v hv hne => absurd (List.prefix_nil.mp hv) hne }
  obtain ⟨hpts, hdts, hnote⟩ := f.of_not_type2 (fun h d heq => hno h d (heq ▸ List.mem_cons_self))
    s.receiver.mStreams
  have htable : f.noteStream s.receiver.mStreams f.stream =
      lastOfStream (acceptedType2s B H mode es) f.stream := by
    rw [hnote, hstreams]
  exact ⟨hpts, hdts, es, a, [], rfl, hopened, rfl, ⟨f, hpacket, rfl⟩, htable⟩

/-- A fragment of another type that is added changes none of the values. -/
theorem borrowed_added {w : List (Event τ)} {a : Arrival τ} {f : Fragment}
    (hpacket : Fragment.ofPacket a.pSubPacket = some f)
    (h : BorrowedIfNoType2 B H mode w f.slot (s.receiver.mBucketList f.slot) (s.accepted f.slot)) :
    BorrowedIfNoType2 B H mode w f.slot (s.receiver.filledBucket f) (s.accepted f.slot ++ [a]) := by
  intro hno
  rw [fragments_concat hpacket] at hno
  have hfields : (s.receiver.filledBucket f).mPts = (s.receiver.mBucketList f.slot).mPts ∧
      (s.receiver.filledBucket f).mDts = (s.receiver.mBucketList f.slot).mDts ∧
      (s.receiver.filledBucket f).mStream = (s.receiver.mBucketList f.slot).mStream ∧
      (s.receiver.filledBucket f).mCode = (s.receiver.mBucketList f.slot).mCode ∧
      (s.receiver.filledBucket f).mDataContent =
        (s.receiver.mBucketList f.slot).mDataContent := by
    cases f with
    | type1 h d => exact ⟨rfl, rfl, rfl, rfl, rfl⟩
    | type2 h₂ d => exact absurd (List.mem_append_right _ List.mem_cons_self) (hno h₂ d)
    | type3 h d => exact ⟨rfl, rfl, rfl, rfl, rfl⟩
  obtain ⟨hpts, hdts, hstream, hcode, hcontent⟩ := hfields
  obtain ⟨hbpts, hbdts, pre, a', post, hw, hopened, hhead, hfragment, htable⟩ :=
    h fun h' d hmem => hno h' d (List.mem_append_left _ hmem)
  refine ⟨hpts.trans hbpts, hdts.trans hbdts, pre, a', post, hw, hopened, ?_, ?_, ?_⟩
  · rw [List.head?_append, hhead]
    rfl
  · rw [hstream]
    exact hfragment
  · rw [hstream, hcode, hcontent]
    exact htable

/-- **One step** for the buckets in use: those of the state before, and those of the state in which
    the fragment is unpacked. -/
theorem borrowed_step {es : List (Event τ)} {e : Event τ}
    (hs : s = (receiverMachine τ).run (Traced.fresh τ B H mode) es)
    (hstreams : s.receiver.mStreams = lastOfStream (acceptedType2s B H mode es))
    (h : s.InUse (BorrowedIfNoType2 B H mode es)) :
    s.InUse (BorrowedIfNoType2 B H mode (es ++ [e])) ∧
      ∀ a f, e = .receiveFragment a → Fragment.ofPacket a.pSubPacket = some f →
        (s.unpacked a f).InUse (BorrowedIfNoType2 B H mode (es ++ [e])) := by
  have hlater : s.InUse (BorrowedIfNoType2 B H mode (es ++ [e])) :=
    fun i hactive hno => (h i hactive hno).later (hs ▸ hactive) e
  refine ⟨hlater, ?_⟩
  rintro a f rfl hpacket
  apply hlater.unpacked
  · intro hidle _ _ _
    exact borrowed_opened hpacket hs hstreams hidle
  · intro _ _ _ _ _ hbefore
    exact borrowed_added hpacket hbefore

variable (B H mode)

/-- Every bucket in use, in every run. -/
theorem borrowed_run (es : List (Event τ))
    (halloc : ∀ a, .receiveFragment a ∈ es → a.amb.allocates = true) :
    ((receiverMachine τ).run (Traced.fresh τ B H mode) es).InUse
      (BorrowedIfNoType2 B H mode es) := by
  induction es using List.reverseRecOn with
  | nil =>
    intro i hactive
    simp [Traced.fresh, Receiver.new] at hactive
  | append_singleton es e ih =>
    have halloc' := fun a ha => halloc a (List.mem_append_left [e] ha)
    have hstep := borrowed_step (e := e) rfl (streams_run B H mode es halloc') (ih halloc')
    rw [Machine.run_concat]
    exact Traced.step_inUse (coherent_run B H mode es) hstep.1 hstep.2

/-- **Metadata of a superframe whose type2 fragment never came.** In every run in which there is
    memory, a superframe that is handed out without an accepted type2 fragment has no PTS and no
    DTS, and the code and the content type of the last type2 fragment of its stream that was
    accepted before its bucket was opened. -/
theorem metadata_without_type2 (es : List (Event τ)) (e : Event τ)
    (halloc : ∀ a, .receiveFragment a ∈ es ++ [e] → a.amb.allocates = true) :
    ∀ x ∈ ((receiverMachine τ).step
        ((receiverMachine τ).run (Traced.fresh τ B H mode) es) e).2.handed,
      (∀ h d, .type2 h d ∉ fragments x.accepted) →
        x.frame.mPts = UINT64_MAX ∧ x.frame.mDts = UINT64_MAX ∧
        ∃ pre a post, es ++ [e] = pre ++ .receiveFragment a :: post ∧
          OpenedBy B H mode pre a post x.slot ∧ x.accepted.head? = some a ∧
          (∃ f, Fragment.ofPacket a.pSubPacket = some f ∧ f.stream = x.frame.mStreamID) ∧
          ({ mCode := x.frame.mCode, mDataContent := x.frame.mDataContent } : Stream) =
            lastOfStream (acceptedType2s B H mode pre) x.frame.mStreamID := by
  intro x hx hno
  have halloc' := fun a ha => halloc a (List.mem_append_left [e] ha)
  have hstep := borrowed_step (e := e) rfl (streams_run B H mode es halloc')
    (borrowed_run B H mode es halloc')
  obtain ⟨b, d, hb, -, hframe, -⟩ :=
    Traced.step_handed_inUse (coherent_run B H mode es) hstep.1 hstep.2 hx
  obtain ⟨hpts, hdts, hopening⟩ := hb hno
  rw [hframe]
  exact ⟨hpts, hdts, hopening⟩

/-- A superframe of one type2 fragment on stream 1, with code 7 and content 3, and then a type1
    fragment of the next superframe of the stream. -/
def lostType2Run : List (Event Unit) :=
  [.receiveFragment
    { label := (), lFromSource := 0, amb := { clockOpen := 0, clockPass := 0 }
      pSubPacket := [2, 1, 3, 0, 1, 0] ++ List.replicate 22 0 ++ [7, 0, 0, 0] ++ [9] },
   .receiveFragment
    { label := (), lFromSource := 0, amb := { clockOpen := 0, clockPass := 0 }
      pSubPacket := [1, 1, 1, 0, 0, 0, 1, 0, 9] }]

/-- In `lostType2Run` the second superframe times out and has the code of the first one. -/
theorem metadata_without_type2_lost :
    ∃ x ∈ ((receiverMachine Unit).step
        ((receiverMachine Unit).run (Traced.fresh Unit 100 0 .RUN_TO_COMPLETION) lostType2Run)
        (.runToCompletionMethod 100000)).2.handed,
      x.frame.mPts = UINT64_MAX ∧ x.frame.mStreamID = 1 ∧ x.frame.mCode = 7 ∧
        x.frame.mDataContent = 3 := by
  have hlost : (((receiverMachine Unit).step
      ((receiverMachine Unit).run (Traced.fresh Unit 100 0 .RUN_TO_COMPLETION) lostType2Run)
      (.runToCompletionMethod 100000)).2.handed).any (fun x =>
        fragments x.accepted = [fragmentType1 [1, 1, 1, 0, 0, 0, 1, 0, 9]] ∧
          x.frame.mStreamID = 1 ∧ x.frame.mCode = 7 ∧ x.frame.mDataContent = 3) = true := by
    decide +kernel
  obtain ⟨x, hx, hlost⟩ := List.any_eq_true.mp hlost
  obtain ⟨htype1, hrest⟩ := of_decide_eq_true hlost
  have hno : ∀ h d, .type2 h d ∉ fragments x.accepted := by
    intro h d hmem
    rw [htype1] at hmem
    simp [fragmentType1] at hmem
  have halloc : ∀ a, .receiveFragment a ∈ lostType2Run ++ [.runToCompletionMethod 100000] →
      a.amb.allocates = true := by
    intro a ha
    simp only [lostType2Run, List.cons_append, List.nil_append, List.mem_cons,
      Event.receiveFragment.injEq, reduceCtorEq, List.not_mem_nil, or_false] at ha
    rcases ha with rfl | rfl
    · rfl
    · rfl
  have hmeta := metadata_without_type2 100 0 .RUN_TO_COMPLETION lostType2Run
    (.runToCompletionMethod 100000) halloc x hx hno
  exact ⟨x, hx, hmeta.1, hrest⟩

end Runs

end ElasticFrame
