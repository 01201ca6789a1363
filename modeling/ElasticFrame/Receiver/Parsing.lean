import ElasticFrame.Receiver.Run

/-!
# Parsing Reads the Packet

Which bytes of a packet `receiveFragmentFromPtr` and the unpack function behind it read, and what
a packet that is refused leaves behind.

- `Receiver.accesses_withinPacket`: with at least one byte in the packet, every read of the
  packet is inside it
- `Receiver.receiveFragmentFromPtr_refused`, `Receiver.unpackType2_cut`: a refused packet changes
  nothing
- `Receiver.parsesSafely_iff`: the byte that decides the kind is read before any length is
  tested, so that parsing is safe exactly when a receiver that runs is given at least one byte
-/

namespace ElasticFrame

open ElasticFrame.Lib

/-! ## §1 Reads of the packet -/

/-- A read of the packet `p` stays inside `p`. Accesses to the tables and buckets do not count. -/
def Access.WithinPacket (p : List UInt8) : Access → Prop
  | packet off len size => size = p.length ∧ off + len ≤ size
  | _ => True

/-- Behind the reads of the packet, unpacking touches the receiver only. -/
theorem Receiver.unpackFragment_withinPacket (r : Receiver) (f : Fragment) (lFromSource : UInt8)
    (amb : Ambient) (p : List UInt8) :
    ∀ access ∈ (r.unpackFragment f lFromSource amb).accesses, access.WithinPacket p := by
  have hstep := r.unpackFragment_step f lFromSource amb
  generalize r.unpackFragment f lFromSource amb = u at hstep ⊢
  cases hstep with
  | tooOld hidle hold => simp
  | refused hidle hnew hwhy => simp [Access.WithinPacket]
  | opened hidle hnew halloc hplaced => simp [Access.WithinPacket]
  | outOfResources hactive hother => simp
  | outOfBounds hactive hsame hbad => simp
  | duplicate hactive hsame hpos hof hdup => simp [Access.WithinPacket]
  | added hactive hsame hpos hof hnew =>
    -- a type2 fragment also writes the stream table, and copies only when it has data
    cases f with
    | type1 h data => simp [Receiver.fillAccesses, Access.WithinPacket]
    | type2 h data =>
      by_cases hempty : h.hSizeOfData = 0
      · simp [Receiver.fillAccesses, hempty, Access.WithinPacket]
      · simp [Receiver.fillAccesses, hempty, Access.WithinPacket]
    | type3 h data => simp [Receiver.fillAccesses, Access.WithinPacket]

/-- A fragment is read inside the packet when the bytes that are copied are in it. -/
theorem Receiver.reading_withinPacket (r : Receiver) {f : Fragment} (lFromSource : UInt8)
    (amb : Ambient) {p : List UInt8} {header : ℕ} (hdata : header + f.copySize ≤ p.length) :
    ∀ access ∈ ((r.unpackFragment f lFromSource amb).reading (packetReads p header f)).accesses,
      access.WithinPacket p := by
  intro access hmem
  rcases List.mem_append.mp hmem with hreads | hmem
  · have hheader : header ≤ p.length := by omega
    simp only [packetReads, List.mem_cons, List.not_mem_nil, or_false] at hreads
    rcases hreads with rfl | rfl
    · exact ⟨rfl, by omega⟩
    · exact ⟨rfl, hdata⟩
  · exact r.unpackFragment_withinPacket f lFromSource amb p access hmem

namespace Receiver

variable (r : Receiver) {p : List UInt8} (lFromSource : UInt8) (amb : Ambient)

theorem unpackType1_withinPacket (hsize : ElasticFrameType1.size ≤ p.length) :
    ∀ access ∈ (r.unpackType1 p lFromSource amb).accesses, access.WithinPacket p := by
  apply r.reading_withinPacket
  -- the data is what the packet has behind the header
  rw [fragmentType1, Fragment.copySize, List.length_drop]
  omega

theorem unpackType2_withinPacket (hsize : ElasticFrameType2.size ≤ p.length) :
    ∀ access ∈ (r.unpackType2 p lFromSource amb).accesses, access.WithinPacket p := by
  unfold unpackType2
  simp only []
  split
  case isTrue hcut =>
    simp only [List.mem_singleton, forall_eq]
    exact ⟨rfl, by omega⟩
  case isFalse hroom =>
    apply r.reading_withinPacket
    -- the header announces the data, and the function has tested that it is there
    rw [fragmentType2, Fragment.copySize]
    exact Nat.not_lt.mp hroom

theorem unpackType3_withinPacket (hsize : ElasticFrameType3.size ≤ p.length) :
    ∀ access ∈ (r.unpackType3 p lFromSource amb).accesses, access.WithinPacket p := by
  apply r.reading_withinPacket
  rw [fragmentType3, Fragment.copySize, List.length_drop]
  omega

/-- **Every read of a packet is inside it**, when the packet has a first byte. -/
theorem accesses_withinPacket (hpacket : r.Running → p ≠ []) :
    ∀ access ∈ (r.receiveFragmentFromPtr p lFromSource amb).accesses, access.WithinPacket p := by
  unfold receiveFragmentFromPtr
  split
  case isTrue hstopped => simp
  case isFalse hrunning =>
    have hpos : 0 < p.length := List.length_pos_iff.mpr (hpacket hrunning)
    have hpeek : (Access.packet 0 1 p.length).WithinPacket p := ⟨rfl, by omega⟩
    have hrefuse : ∀ access ∈ [Access.packet 0 1 p.length], access.WithinPacket p := by
      simpa using hpeek
    -- each kind has its test of the size before its unpack function
    simp only []
    split
    case isTrue => exact hrefuse
    case isFalse =>
    split
    case isTrue =>
      split
      case isTrue => exact hrefuse
      case isFalse hsize =>
        exact List.forall_mem_append.mpr
          ⟨hrefuse, r.unpackType1_withinPacket lFromSource amb (Nat.not_lt.mp hsize)⟩
    case isFalse =>
    split
    case isTrue =>
      split
      case isTrue => exact hrefuse
      case isFalse hsize =>
        exact List.forall_mem_append.mpr
          ⟨hrefuse, r.unpackType2_withinPacket lFromSource amb (Nat.not_lt.mp hsize)⟩
    case isFalse =>
    split
    case isTrue =>
      split
      case isTrue => exact hrefuse
      case isFalse hsize =>
        exact List.forall_mem_append.mpr
          ⟨hrefuse, r.unpackType3_withinPacket lFromSource amb (Nat.not_lt.mp hsize)⟩
    case isFalse => exact hrefuse

/-- A receiver that runs reads the first byte of whatever it is given. -/
theorem peek_mem_accesses (hrunning : r.Running) (p : List UInt8) :
    Access.packet 0 1 p.length ∈ (r.receiveFragmentFromPtr p lFromSource amb).accesses := by
  unfold receiveFragmentFromPtr
  rw [if_neg hrunning]
  simp only []
  repeat' split
  all_goals simp [completeCall, Unpacked.reading]

/-! ## §2 Refused packets -/

/-- The messages of an unpack function that takes a fragment. -/
theorem unpackFragment_message (f : Fragment) :
    (r.unpackFragment f lFromSource amb).message ∈
      [ElasticFrameMessages.noError, .tooOldFragment, .duplicatePacketReceived,
        .bufferOutOfResources, .bufferOutOfBounds, .memoryAllocationError] := by
  have hstep := r.unpackFragment_step f lFromSource amb
  generalize r.unpackFragment f lFromSource amb = u at hstep ⊢
  cases hstep with
  | refused hidle hnew hwhy => cases amb.allocates <;> simp
  | _ => simp

/-- A packet of another kind, or too short for its kind, changes nothing. -/
theorem receiveFragmentFromPtr_refused (p : List UInt8)
    (hrefused : (r.receiveFragmentFromPtr p lFromSource amb).message ∈
      [ElasticFrameMessages.type0Frame, .unknownFrameType, .frameSizeMismatch]) :
    (r.receiveFragmentFromPtr p lFromSource amb).receiver = r ∧
      (r.receiveFragmentFromPtr p lFromSource amb).handed = [] := by
  have hstep := r.receiveFragmentFromPtr_step p lFromSource amb
  generalize r.receiveFragmentFromPtr p lFromSource amb = out at hstep hrefused ⊢
  cases hstep with
  | refused message accesses hmessage haccesses => exact ⟨rfl, rfl⟩
  | cut hpacket hsize => simp [completeCall] at hrefused
  | fragment f header hpacket =>
    -- no unpack function gives one of these messages
    have hmessage := r.unpackFragment_message lFromSource amb f
    simp only [completeCall, Unpacked.reading] at hrefused
    generalize (r.unpackFragment f lFromSource amb).message = message at hmessage hrefused
    exfalso
    revert hmessage hrefused
    cases message <;> decide

/-- A type2 packet that announces more data than it has changes nothing. -/
theorem unpackType2_cut (p : List UInt8)
    (hcut : (r.unpackType2 p lFromSource amb).message = .type2FrameOutOfBounds) :
    (r.unpackType2 p lFromSource amb).receiver = r := by
  revert hcut
  unfold unpackType2
  simp only []
  split
  case isTrue => exact fun _ => rfl
  case isFalse =>
    intro hcut
    have hmessage := r.unpackFragment_message lFromSource amb (fragmentType2 p)
    simp only [Unpacked.reading] at hcut
    rw [hcut] at hmessage
    simp at hmessage

/-! ## §3 Safe parsing -/

/-- A call with the packet `p` reads only the packet, and refuses without side effect. -/
structure ParsesSafely (p : List UInt8) : Prop where
  reads : ∀ access ∈ (r.receiveFragmentFromPtr p lFromSource amb).accesses, access.WithinPacket p
  refused : (r.receiveFragmentFromPtr p lFromSource amb).message ∈
      [ElasticFrameMessages.type0Frame, .unknownFrameType, .frameSizeMismatch] →
    (r.receiveFragmentFromPtr p lFromSource amb).receiver = r ∧
      (r.receiveFragmentFromPtr p lFromSource amb).handed = []
  cut : (r.unpackType2 p lFromSource amb).message = .type2FrameOutOfBounds →
    (r.unpackType2 p lFromSource amb).receiver = r

/-- **When parsing is safe**: for every state of the receiver and every packet, exactly when a
    receiver that runs is given at least one byte. -/
theorem parsesSafely_iff (p : List UInt8) :
    r.ParsesSafely lFromSource amb p ↔ (r.Running → p ≠ []) := by
  constructor
  · rintro hsafe hrunning rfl
    have hpeek := hsafe.reads _ (r.peek_mem_accesses lFromSource amb hrunning [])
    exact absurd hpeek.2 (by decide)
  · intro hpacket
    exact
      { reads := r.accesses_withinPacket lFromSource amb hpacket
        refused := r.receiveFragmentFromPtr_refused lFromSource amb p
        cut := r.unpackType2_cut lFromSource amb p }

/-- An empty packet makes a new receiver read a byte that it was not given. -/
theorem not_parsesSafely_empty :
    ¬ (Receiver.new 0 0 .RUN_TO_COMPLETION).ParsesSafely 0
      { clockOpen := 0, clockPass := 0 } [] := by
  intro hsafe
  have hpeek := hsafe.reads (Access.packet 0 1 0) (by decide)
  exact absurd hpeek.2 (by decide)

end Receiver

end ElasticFrame
