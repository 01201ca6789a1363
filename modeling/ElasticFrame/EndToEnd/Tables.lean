import ElasticFrame.EndToEnd.Numbering
import ElasticFrame.Sender.Law

/-!
# The Tables of the Receiver

The receiver has three tables, and each is one entry off a power of two: `mBucketList` has
`CIRCULAR_BUFFER_SIZE + 1` entries, `mHaveReceivedFragment` has `UINT16_MAX` bits and `mStreams`
has `UINT8_MAX` entries. Here the fragments are those that senders emit, in any order, with any
loss and duplication.

The ring is indexed through its mask, and no position of a sender reaches 65535. But the sender
accepts the stream ID 255, which is one past the end of `mStreams`.

- `Emitted`: the packets of successful calls
- `Traced.TablesSuffice`: the indices of a step into the ring and the bit set are inside
- `Traced.StreamsSuffice`: so are its indices into `mStreams`
- `tables_suffice`: the first holds in every run, the second in those without fragments of
  stream 255
-/

namespace ElasticFrame

open ElasticFrame.Lib

/-! ## §1 Emitted packets -/

/-- A packet that some sender gives to its send callback: for an MTU from 255 on, any superframe
    number, whatever the last packet left in the buffer, and a call that succeeds. -/
def Emitted (pSubPacket : List UInt8) : Prop :=
  ∃ (lSetMTU lSuperFrameNo : UInt16) (mSendBufferEnd : List UInt8) (c : Call),
    UINT8_MAX ≤ lSetMTU.toNat ∧
    ((Sender.used lSetMTU lSuperFrameNo mSendBufferEnd).packAndSendFromPtr c).message = .noError ∧
    pSubPacket ∈ ((Sender.used lSetMTU lSuperFrameNo mSendBufferEnd).packAndSendFromPtr c).packets

/-- An emitted packet holds a fragment of a parcel. -/
theorem Emitted.fragment {p : List UInt8} (h : Emitted p) :
    ∃ (P : Parcel) (f : Fragment), f ∈ P.fragments ∧ Fragment.ofPacket p = some f := by
  obtain ⟨lSetMTU, lSuperFrameNo, mSendBufferEnd, c, hmtu, hsuccess, hmem⟩ := h
  have hspec := (Sender.used lSetMTU lSuperFrameNo mSendBufferEnd).packAndSendFromPtr_eq c
    (Sender.used_exact hmtu lSuperFrameNo mSendBufferEnd)
  have haccepts := hspec.2 hsuccess
  rw [hspec.1 haccepts] at hmem
  obtain ⟨f, hf, rfl⟩ := List.mem_map.mp hmem
  exact ⟨_, f, hf, Parcel.ofPacket_fragment _ hf _⟩

/-- No position of an emitted fragment is outside the bit set. -/
theorem Emitted.position_lt {p : List UInt8} (h : Emitted p) {f : Fragment}
    (hpacket : Fragment.ofPacket p = some f) : f.fragmentNo.toNat < UINT16_MAX := by
  obtain ⟨P, g, hg, hpacket'⟩ := h.fragment
  obtain rfl := Option.some.inj (hpacket.symm.trans hpacket')
  exact (P.position_le hg).2.1

/-! ## §2 Indices -/

/-- The fragment is added to a bucket in use. -/
structure Receiver.Adds (r : Receiver) (f : Fragment) : Prop where
  active : (r.mBucketList f.slot).mActive = true
  same : f.hSuperFrameNo = (r.mBucketList f.slot).mSavedSuperFrameNo
  pos : f.fragmentNo ≤ (r.mBucketList f.slot).mOfFragmentNo
  of : f.hOfFragmentNo = (r.mBucketList f.slot).mOfFragmentNo
  new : f.fragmentNo ∉ (r.mBucketList f.slot).mHaveReceivedFragment

/-- The fragment looks up its stream: it finds its slot free under another order, or it is a type2
    fragment that is added to a bucket. -/
def Receiver.LooksUp (r : Receiver) (f : Fragment) : Prop :=
  ((r.mBucketList f.slot).mActive = false ∧
      r.candidate f.hSuperFrameNo ≠ (r.mBucketList f.slot).mDeliveryOrder) ∨
    ((∃ h d, f = .type2 h d) ∧ r.Adds f)

/-- The stream table is accessed by fragments that look up their stream, at its entry. -/
theorem Receiver.stream_mem_accesses_iff (r : Receiver) (f : Fragment) (lFromSource : UInt8)
    (amb : Ambient) (index : UInt8) :
    Access.stream index ∈ (r.unpackFragment f lFromSource amb).accesses ↔
      r.LooksUp f ∧ index = f.stream := by
  have hstep := r.unpackFragment_step f lFromSource amb
  generalize r.unpackFragment f lFromSource amb = u at hstep ⊢
  unfold LooksUp
  cases hstep with
  | tooOld hidle hold =>
    refine iff_of_false (by simp) ?_
    rintro ⟨⟨-, hnew⟩ | ⟨-, hadds⟩, -⟩
    · exact hnew hold
    · exact absurd (hidle.symm.trans hadds.active) Bool.false_ne_true
  | refused hidle hnew hwhy => simp [hidle, hnew]
  | opened hidle hnew halloc hplaced => simp [hidle, hnew]
  | outOfResources hactive hother =>
    refine iff_of_false (by simp) ?_
    rintro ⟨⟨hidle, -⟩ | ⟨-, hadds⟩, -⟩
    · exact absurd (hidle.symm.trans hactive) Bool.false_ne_true
    · exact hother hadds.same
  | outOfBounds hactive hsame hbad =>
    refine iff_of_false (by simp) ?_
    rintro ⟨⟨hidle, -⟩ | ⟨-, hadds⟩, -⟩
    · exact absurd (hidle.symm.trans hactive) Bool.false_ne_true
    · rcases hbad with hlt | hother
      · exact UInt16.not_lt.mpr hadds.pos hlt
      · exact hother hadds.of
  | duplicate hactive hsame hpos hof hdup =>
    refine iff_of_false (by simp) ?_
    rintro ⟨⟨hidle, -⟩ | ⟨-, hadds⟩, -⟩
    · exact absurd (hidle.symm.trans hactive) Bool.false_ne_true
    · exact hadds.new hdup
  | added hactive hsame hpos hof hnew =>
    have hadds : r.Adds f := ⟨hactive, hsame, hpos, hof, hnew⟩
    -- only a type2 fragment writes the table
    cases f with
    | type1 h d => simp [fillAccesses, hactive]
    | type3 h d => simp [fillAccesses, hactive]
    | type2 h d =>
      have hcopy : ∀ a, Access.stream index ∈ (if h.hSizeOfData = 0 then [] else [a]) ↔
          h.hSizeOfData ≠ 0 ∧ Access.stream index = a := by
        intro a
        split <;> simp [*]
      simp [fillAccesses, hactive, hadds, hcopy]

/-- The bit set is accessed at the position of the fragment. -/
theorem Receiver.eq_of_received_mem_accesses (r : Receiver) (f : Fragment) (lFromSource : UInt8)
    (amb : Ambient) {index : UInt16}
    (hmem : Access.received index ∈ (r.unpackFragment f lFromSource amb).accesses) :
    index = f.fragmentNo := by
  have hstep := r.unpackFragment_step f lFromSource amb
  generalize r.unpackFragment f lFromSource amb = u at hstep hmem
  cases hstep with
  | tooOld => simp at hmem
  | refused => simpa using hmem
  | opened => simpa using hmem
  | outOfResources => simp at hmem
  | outOfBounds => simp at hmem
  | duplicate => simpa using hmem
  | added =>
    cases f with
    | type1 h d => simpa [fillAccesses] using hmem
    | type3 h d => simpa [fillAccesses] using hmem
    | type2 h d =>
      by_cases hempty : h.hSizeOfData = 0
      · simpa [fillAccesses, hempty] using hmem
      · simpa [fillAccesses, hempty] using hmem

/-- Unpacking changes no entry of the stream table but that of its own stream. -/
theorem Receiver.unpackFragment_streams (r : Receiver) (f : Fragment) (lFromSource : UInt8)
    (amb : Ambient) {i : UInt8} (hi : i ≠ f.stream) :
    (r.unpackFragment f lFromSource amb).receiver.mStreams i = r.mStreams i := by
  have hnote : f.noteStream r.mStreams i = r.mStreams i := by
    cases f with
    | type1 h d => rfl
    | type3 h d => rfl
    | type2 h d => exact Function.update_of_ne hi _ _
  have hstep := r.unpackFragment_step f lFromSource amb
  generalize r.unpackFragment f lFromSource amb = u at hstep ⊢
  cases hstep with
  | tooOld => rfl
  | refused => exact hnote
  | opened => exact hnote
  | outOfResources => rfl
  | outOfBounds => rfl
  | duplicate => rfl
  | added => exact hnote

/-! ## §3 Steps -/

section Runs

variable {τ : Type}

/-- The ring and the bit set are large enough for a step, and it changes no entry of `mStreams`
    other than that of its own fragment. -/
structure Traced.TablesSuffice (s : Traced τ) (e : Event τ) : Prop where
  received : ∀ index, Access.received index ∈ (s.step e).2.accesses → index.toNat < UINT16_MAX
  bucketList : ∀ a f, e = .receiveFragment a → Fragment.ofPacket a.pSubPacket = some f →
    f.hSuperFrameNo.toNat &&& CIRCULAR_BUFFER_SIZE < CIRCULAR_BUFFER_SIZE + 1
  streams : ∀ i, (∀ a f, e = .receiveFragment a → Fragment.ofPacket a.pSubPacket = some f →
    i ≠ f.stream) → (s.step e).1.receiver.mStreams i = s.receiver.mStreams i

/-- `mStreams` is large enough for a step. -/
def Traced.StreamsSuffice (s : Traced τ) (e : Event τ) : Prop :=
  ∀ index, Access.stream index ∈ (s.step e).2.accesses → index.toNat < UINT8_MAX

/-- The step brings a fragment of stream 255. -/
def Event.OnLastStream (e : Event τ) : Prop :=
  ∃ a f, e = .receiveFragment a ∧ Fragment.ofPacket a.pSubPacket = some f ∧
    f.stream.toNat = UINT8_MAX

/-- The entry of stream 255, one past the end of `mStreams`, is looked up. -/
def Traced.LooksUpPastEnd (s : Traced τ) (e : Event τ) : Prop :=
  ∃ a f, e = .receiveFragment a ∧ Fragment.ofPacket a.pSubPacket = some f ∧
    f.stream.toNat = UINT8_MAX ∧ s.receiver.LooksUp f

/-- What a step changes in the stream table. -/
theorem Traced.step_streams {s : Traced τ} (hcoherent : s.receiver.Coherent) (e : Event τ)
    {i : UInt8}
    (hi : ∀ a f, e = .receiveFragment a → Fragment.ofPacket a.pSubPacket = some f →
      i ≠ f.stream) :
    (s.step e).1.receiver.mStreams i = s.receiver.mStreams i := by
  have hparts := s.step_parts e
  generalize s.step e = out at hparts ⊢
  cases hparts with
  | refused => rfl
  | cut a _ _ d hd =>
    subst hd
    exact congrFun (Receiver.runIfToCompletion_passes hcoherent.slotsDistinct _).streams i
  | fragment a f header hpacket d hd =>
    subst hd
    have hunpacked := hcoherent.unpack f a.lFromSource a.amb
    have hpass := Receiver.runIfToCompletion_passes hunpacked.slotsDistinct a.amb.clockPass
    exact (congrFun hpass.streams i).trans
      (s.receiver.unpackFragment_streams f _ _ (hi a f rfl hpacket))
  | runToCompletion lTimeNow d hd =>
    subst hd
    exact congrFun (Receiver.runToCompletionMethod_passes hcoherent.slotsDistinct _).streams i
  | worker lTimeNow d hd =>
    subst hd
    exact congrFun (Receiver.receiverWorkerPass_passes hcoherent.slotsDistinct _).streams i

/-- Where a step accesses a table, it unpacks a fragment, and the access is one of unpacking. -/
theorem Traced.unpacks_of_access {s : Traced τ} {e : Event τ} {access : Access}
    (hmem : access ∈ (s.step e).2.accesses)
    (htable : ∀ off len size, access ≠ .packet off len size) :
    ∃ a f, e = .receiveFragment a ∧ Fragment.ofPacket a.pSubPacket = some f ∧
      access ∈ (s.receiver.unpackFragment f a.lFromSource a.amb).accesses := by
  have hparts := s.step_parts e
  generalize s.step e = out at hparts hmem
  cases hparts with
  | refused a message accesses _ _ haccesses =>
    obtain rfl := List.mem_singleton.mp (haccesses hmem)
    exact absurd rfl (htable _ _ _)
  | cut a hpacket hsize d hd =>
    rcases List.mem_cons.mp hmem with rfl | hmem
    · exact absurd rfl (htable _ _ _)
    · obtain rfl := List.mem_singleton.mp hmem
      exact absurd rfl (htable _ _ _)
  | fragment a f header hpacket d hd =>
    rcases List.mem_append.mp hmem with hreads | hmem
    · -- the reads of the packet touch no table
      simp only [packetReads, List.mem_cons, List.not_mem_nil, or_false] at hreads
      rcases hreads with rfl | rfl | rfl
      · exact absurd rfl (htable _ _ _)
      · exact absurd rfl (htable _ _ _)
      · exact absurd rfl (htable _ _ _)
    · exact ⟨a, f, rfl, hpacket, hmem⟩
  | runToCompletion lTimeNow d hd => exact absurd hmem List.not_mem_nil
  | worker lTimeNow d hd => exact absurd hmem List.not_mem_nil

/-- **Step lemma**: the ring and the bit set suffice for the fragment of an emitted packet. -/
theorem Traced.tablesSuffice {s : Traced τ} (hcoherent : s.receiver.Coherent) {e : Event τ}
    (hemitted : ∀ a, e = .receiveFragment a → Emitted a.pSubPacket) : s.TablesSuffice e where
  received index hmem := by
    obtain ⟨a, f, rfl, hpacket, hmem⟩ := s.unpacks_of_access hmem (by simp)
    obtain rfl := s.receiver.eq_of_received_mem_accesses f _ _ hmem
    exact (hemitted a rfl).position_lt hpacket
  bucketList _ _ _ _ := Nat.lt_succ_of_le Nat.and_le_right
  streams _ := s.step_streams hcoherent e

/-- **Step lemma**: the stream table suffices for a step that brings no fragment of stream 255. -/
theorem Traced.streamsSuffice {s : Traced τ} {e : Event τ} (hother : ¬ e.OnLastStream) :
    s.StreamsSuffice e := by
  intro index hmem
  obtain ⟨a, f, rfl, hpacket, hmem⟩ := s.unpacks_of_access hmem (by simp)
  obtain ⟨-, rfl⟩ := (s.receiver.stream_mem_accesses_iff f _ _ index).mp hmem
  have hlt := f.stream.toNat_lt
  have hne : f.stream.toNat ≠ 255 := fun hlast => hother ⟨a, f, rfl, hpacket, hlast⟩
  show f.stream.toNat < 255
  omega

/-- The entry past the end is not in the table. -/
theorem Traced.not_streamsSuffice {s : Traced τ} (hrunning : s.receiver.Running) {e : Event τ}
    (hlooks : s.LooksUpPastEnd e) : ¬ s.StreamsSuffice e := by
  obtain ⟨a, f, rfl, hpacket, hlast, hlookup⟩ := hlooks
  intro hsuffice
  have haccess := Traced.accesses_of_fragment hrunning hpacket (Access.stream f.stream)
    ((s.receiver.stream_mem_accesses_iff f _ _ _).mpr ⟨hlookup, rfl⟩)
  have hlt : f.stream.toNat < UINT8_MAX := hsuffice _ haccess
  exact absurd hlast hlt.ne

/-! ## §4 Whole runs -/

variable (B H : UInt32) (mode : EFPReceiverMode)

/-- **When the tables are large enough.** In every run of emitted packets every index into the ring
    and the bit set is inside, and no entry of another stream changes. In a run without fragments of
    stream 255 every index into `mStreams` is inside as well; and in any run, a fragment of stream
    255 that finds its slot free under another order, or is a type2 fragment that is new to its
    bucket, is looked up past the end. -/
theorem tables_suffice (es : List (Event τ)) (hemitted : ∀ a ∈ arrivals es, Emitted a.pSubPacket) :
    (∀ s e, (receiverMachine τ).Takes (Traced.fresh τ B H mode) es s e → s.TablesSuffice e) ∧
      ((∀ e ∈ es, ¬ e.OnLastStream) →
        ∀ s e, (receiverMachine τ).Takes (Traced.fresh τ B H mode) es s e → s.StreamsSuffice e) ∧
      ∀ s e, (receiverMachine τ).Takes (Traced.fresh τ B H mode) es s e →
        s.LooksUpPastEnd e → ¬ s.StreamsSuffice e := by
  refine ⟨fun s e htakes => ?_, fun hother s e htakes => ?_, fun s e htakes => ?_⟩
  · apply Traced.tablesSuffice (coherent_takes B H mode htakes)
    rintro a rfl
    obtain ⟨pre, post, rfl, -⟩ := htakes
    exact hemitted a (mem_arrivals.mpr (by simp))
  · obtain ⟨pre, post, rfl, -⟩ := htakes
    exact Traced.streamsSuffice (hother e (by simp))
  · obtain ⟨pre, post, -, rfl⟩ := htakes
    exact Traced.not_streamsSuffice (configured_run B H mode pre).running

end Runs

/-- A packet as it arrives at time 0. -/
def arrivalOf (pSubPacket : List UInt8) : Arrival Unit where
  label := ()
  pSubPacket
  lFromSource := 0
  amb := { clockOpen := 0, clockPass := 0 }

/-- The packets of a superframe that is cut, each of them twice. -/
def repeatedRun : List (Event Unit) :=
  let packets := ((Sender.used 255 65535 []).packAndSendFromPtr Sender.cutCall).packets
  (packets ++ packets).map fun p => .receiveFragment (arrivalOf p)

/-- They are of stream 1, so that all tables suffice. -/
theorem tables_suffice_repeated :
    (∀ s e, (receiverMachine Unit).Takes (Traced.fresh Unit 100 0 .THREADED) repeatedRun s e →
      s.TablesSuffice e) ∧
    ∀ s e, (receiverMachine Unit).Takes (Traced.fresh Unit 100 0 .THREADED) repeatedRun s e →
      s.StreamsSuffice e := by
  have hemitted : ∀ a ∈ arrivals repeatedRun, Emitted a.pSubPacket := by
    intro a ha
    obtain ⟨p, hp, hpa⟩ := List.mem_map.mp (mem_arrivals.mp ha)
    obtain rfl := Event.receiveFragment.inj hpa
    exact ⟨255, 65535, [], Sender.cutCall, by decide, by decide +kernel,
      (List.mem_append.mp hp).elim id id⟩
  obtain ⟨htables, hstreams, -⟩ := tables_suffice 100 0 .THREADED repeatedRun hemitted
  refine ⟨htables, hstreams ?_⟩
  rintro e he ⟨a, f, rfl, hpacket, hlast⟩
  have hfirst : (arrivals repeatedRun).all fun a =>
      (Fragment.ofPacket a.pSubPacket).all fun f => f.stream = 1 := by
    decide +kernel
  have hstream := List.all_eq_true.mp hfirst a (mem_arrivals.mpr he)
  rw [hpacket] at hstream
  rw [of_decide_eq_true hstream] at hlast
  exact absurd hlast (by decide)

/-- A call with one byte of data on stream 255. -/
def lastStreamCall : Call := { Transmission.oneByte with lStreamID := 255 }

/-- The only packet of that call. -/
def lastStreamArrival : Arrival Unit :=
  arrivalOf (((Sender.used 255 0 []).packAndSendFromPtr lastStreamCall).packets.headD [])

/-- The sender emits a packet for which the stream table is too small. -/
theorem not_tables_lastStream :
    Emitted lastStreamArrival.pSubPacket ∧
      ¬ ∀ s e, (receiverMachine Unit).Takes (Traced.fresh Unit 100 0 .THREADED)
        [.receiveFragment lastStreamArrival] s e → s.TablesSuffice e ∧ s.StreamsSuffice e := by
  constructor
  · exact ⟨255, 0, [], lastStreamCall, by decide, by decide +kernel, by decide +kernel⟩
  · intro hsuffice
    have hstep := hsuffice _ _ ⟨[], [], rfl, rfl⟩
    have haccess : Access.stream 255 ∈ ((Traced.fresh Unit 100 0 .THREADED).step
        (.receiveFragment lastStreamArrival)).2.accesses := by
      decide +kernel
    exact absurd (hstep.2 _ haccess) (by decide)

end ElasticFrame
