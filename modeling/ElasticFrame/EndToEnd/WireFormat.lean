import ElasticFrame.Receiver.Modes
import ElasticFrame.Receiver.Parsing
import ElasticFrame.Sender.Fragments

/-!
# What Counts of a Packet

A packet that a receiver unpacks is a fragment as a sender writes it, header and data. A type2
header has padding among its fields, and behind the data of a type2 fragment there may be more
bytes, since its header tells the size of the data. There can be none behind the others, since all
that follows the header is data.

- `Fragment.Written`: a packet is that of a fragment, whatever its padding is
- `received_iff_written`: these packets are unpacked, and no others
- `padding_unseen`: the padding makes no difference, over whole runs
-/

namespace ElasticFrame

open ElasticFrame.Lib

/-! ## §1 Written packets -/

namespace Fragment

/-- There may be bytes behind the data of the fragment. -/
def Paddable : Fragment → Prop
  | type2 _ _ => True
  | _ => False

/-- The packet is that of the fragment: its header, with anything in the padding, its data, and
    bytes behind it where there may be some. -/
structure Written (f : Fragment) (p : List UInt8) : Prop where
  typed : f.Typed
  bytes : ∃ (padding : ElasticFrameType2.Padding) (behind : List UInt8),
    p = f.toBytes padding ++ behind ∧ (behind ≠ [] → f.Paddable)

/-- A type2 fragment is read back from a packet with padding. -/
private theorem ofPacket_padded {h : ElasticFrameType2} {d : List UInt8}
    (htyped : (type2 h d).Typed) (padding : ElasticFrameType2.Padding) (behind : List UInt8) :
    ofPacket ((type2 h d).toBytes padding ++ behind) = some (type2 h d) := by
  have happend : (type2 h d).toBytes padding ++ behind = h.toBytes padding ++ (d ++ behind) :=
    List.append_assoc _ _ _
  rw [happend]
  have hkind : byteAt (h.toBytes padding ++ (d ++ behind)) 0 &&& 0x0f = Frametype.type2.value :=
    htyped.1
  have hread : fragmentType2 (h.toBytes padding ++ (d ++ behind)) = .type2 h d := by
    rw [fragmentType2, ElasticFrameType2.ofBytes_toBytes,
      List.drop_left' (ElasticFrameType2.toBytes_length h padding), htyped.2, List.take_left]
  have hsize : ElasticFrameType2.size +
      (ElasticFrameType2.ofBytes (h.toBytes padding ++ (d ++ behind))).hSizeOfData.toNat ≤
        (h.toBytes padding ++ (d ++ behind)).length := by
    rw [ElasticFrameType2.ofBytes_toBytes, htyped.2]
    simp
  have hother : Frametype.type2.value ≠ Frametype.type1.value := by decide
  rw [ofPacket, if_neg (fun h1 => hother (hkind.symm.trans h1.1)), if_pos ⟨hkind, hsize⟩, hread]

/-- **What is read was written**: the fragment that is read from a packet, written again, is the
    packet up to its padding. -/
theorem written_iff {f : Fragment} {p : List UInt8} : f.Written p ↔ ofPacket p = some f := by
  constructor
  · rintro ⟨htyped, padding, behind, rfl, hbehind⟩
    cases f with
    | type2 h d => exact ofPacket_padded htyped padding behind
    | type1 h d =>
      have hnone : behind = [] := not_not.mp fun hne => hbehind hne
      rw [hnone, List.append_nil]
      exact ofPacket_toBytes htyped padding
    | type3 h d =>
      have hnone : behind = [] := not_not.mp fun hne => hbehind hne
      rw [hnone, List.append_nil]
      exact ofPacket_toBytes htyped padding
  · intro hpacket
    unfold ofPacket at hpacket
    simp only [] at hpacket
    split at hpacket
    -- all that follows a type1 header is data
    case isTrue h1 =>
      obtain rfl := Option.some.inj hpacket
      refine ⟨h1.1, {}, [], ?_, fun hne => absurd rfl hne⟩
      show p = (ElasticFrameType1.ofBytes p).toBytes ++ p.drop ElasticFrameType1.size ++ []
      rw [ElasticFrameType1.toBytes_ofBytes h1.2, List.append_nil, List.take_append_drop]
    case isFalse h1 =>
    split at hpacket
    case isTrue h2 =>
      obtain rfl := Option.some.inj hpacket
      -- the header tells where the data ends
      generalize hn : (ElasticFrameType2.ofBytes p).hSizeOfData.toNat = n at h2
      have hlength : ((p.drop ElasticFrameType2.size).take n).length = n := by
        rw [List.length_take, List.length_drop]
        omega
      refine ⟨⟨h2.1, ?_⟩, .ofBytes p, p.drop (ElasticFrameType2.size + n), ?_, fun _ => trivial⟩
      · rw [hn, hlength]
      · show p = (ElasticFrameType2.ofBytes p).toBytes (.ofBytes p) ++
          (p.drop ElasticFrameType2.size).take (ElasticFrameType2.ofBytes p).hSizeOfData.toNat ++
            p.drop (ElasticFrameType2.size + n)
        rw [hn, ElasticFrameType2.toBytes_ofBytes (by omega), ← List.take_add,
          List.take_append_drop]
    case isFalse h2 =>
    split at hpacket
    case isTrue h3 =>
      obtain rfl := Option.some.inj hpacket
      refine ⟨h3.1, {}, [], ?_, fun hne => absurd rfl hne⟩
      show p = (ElasticFrameType3.ofBytes p).toBytes ++ p.drop ElasticFrameType3.size ++ []
      rw [ElasticFrameType3.toBytes_ofBytes h3.2, List.append_nil, List.take_append_drop]
    case isFalse h3 => cases hpacket

/-- A packet is that of one fragment at most. -/
theorem Written.unique {f g : Fragment} {p : List UInt8} (hf : f.Written p) (hg : g.Written p) :
    g = f :=
  Option.some.inj ((written_iff.mp hg).symm.trans (written_iff.mp hf))

end Fragment

/-! ## §2 One call -/

/-- What a call is told about a packet that is no fragment. -/
def formatErrors : List ElasticFrameMessages :=
  [.type0Frame, .frameSizeMismatch, .unknownFrameType, .type2FrameOutOfBounds]

/-- What a call does that unpacks this fragment. -/
structure Received.OfFragment (out : Received) (r : Receiver) (f : Fragment) (lFromSource : UInt8)
    (amb : Ambient) : Prop where
  message : out.message = (r.unpackFragment f lFromSource amb).message
  receiver : out.receiver =
    (Receiver.completeCall (r.unpackFragment f lFromSource amb) amb).receiver
  handed : out.handed = (Receiver.completeCall (r.unpackFragment f lFromSource amb) amb).handed

/-- A call of a running receiver with the packet of a fragment. -/
theorem Received.ofFragment {r : Receiver} (hrunning : r.Running) {p : List UInt8} {f : Fragment}
    (hwritten : f.Written p) (lFromSource : UInt8) (amb : Ambient) :
    (r.receiveFragmentFromPtr p lFromSource amb).OfFragment r f lFromSource amb := by
  have hpacket := Fragment.written_iff.mp hwritten
  have hstep := r.receiveFragmentFromPtr_step p lFromSource amb
  generalize r.receiveFragmentFromPtr p lFromSource amb = out at hstep ⊢
  cases hstep with
  | refused message accesses hmessage haccesses =>
    obtain ⟨hnone, -⟩ := hmessage.resolve_left fun hstopped => hstopped.2 hrunning
    exact absurd (hnone.symm.trans hpacket) (by simp)
  | cut hnone hsize => exact absurd (hnone.symm.trans hpacket) (by simp)
  | fragment g header hg =>
    obtain rfl := Option.some.inj (hg.symm.trans hpacket)
    exact ⟨rfl, rfl, rfl⟩

/-- A call of a running receiver with another packet. -/
theorem Received.formatError {r : Receiver} (hrunning : r.Running) {p : List UInt8}
    (hnone : Fragment.ofPacket p = none) (lFromSource : UInt8) (amb : Ambient) :
    (r.receiveFragmentFromPtr p lFromSource amb).message ∈ formatErrors := by
  have hstep := r.receiveFragmentFromPtr_step p lFromSource amb
  generalize r.receiveFragmentFromPtr p lFromSource amb = out at hstep ⊢
  cases hstep with
  | refused message accesses hmessage haccesses =>
    obtain ⟨-, hmem⟩ := hmessage.resolve_left fun hstopped => hstopped.2 hrunning
    show message ∈ formatErrors
    simp only [List.mem_cons, List.not_mem_nil, or_false] at hmem
    rcases hmem with rfl | rfl | rfl <;> decide
  | cut _ hsize => exact List.mem_of_elem_eq_true rfl
  | fragment g header hg => exact absurd (hnone.symm.trans hg) (by simp)

/-- **The packets that are unpacked**: a receiver that runs unpacks exactly the packets that are
    written as a sender writes its fragments, each as the one fragment that it is the packet of.
    Every other packet is refused as such. -/
theorem received_iff_written {r : Receiver} (hrunning : r.Running) {p : List UInt8}
    -- the kind of an empty packet is read from behind its end
    (_ : p ≠ []) (lFromSource : UInt8) (amb : Ambient) :
    let out := r.receiveFragmentFromPtr p lFromSource amb
    ((∃ f : Fragment, f.Written p) ↔ out.message ∉ formatErrors) ∧
      ∀ f : Fragment, f.Written p →
        out.OfFragment r f lFromSource amb ∧ ∀ g : Fragment, g.Written p → g = f := by
  intro out
  refine ⟨⟨?_, fun hmessage => ?_⟩, fun f hf => ?_⟩
  · rintro ⟨f, hf⟩ herror
    -- no unpack function gives one of these messages
    have hmessage := r.unpackFragment_message lFromSource amb f
    rw [(Received.ofFragment hrunning hf lFromSource amb).message] at herror
    generalize (r.unpackFragment f lFromSource amb).message = message at hmessage herror
    revert hmessage herror
    cases message <;> decide
  · cases hpacket : Fragment.ofPacket p with
    | none => exact absurd (Received.formatError hrunning hpacket lFromSource amb) hmessage
    | some f => exact ⟨f, Fragment.written_iff.mpr hpacket⟩
  · exact ⟨Received.ofFragment hrunning hf lFromSource amb, fun g hg => hf.unique hg⟩

/-- The packet of a whole superframe with other padding, and three bytes behind its data. -/
def paddedPacket : List UInt8 :=
  (Fragment.toBytes (fragmentType2 validArrival.pSubPacket)
    { behindDataContent := 9, behindType1PacketSize := 99 }) ++ [1, 2, 3]

/-- A new receiver is given the padded packet. -/
theorem received_iff_written_padded :
    let r := Receiver.new 100 50 .RUN_TO_COMPLETION
    let amb : Ambient := { clockOpen := 0, clockPass := 0 }
    let out := r.receiveFragmentFromPtr paddedPacket 0 amb
    ((∃ f : Fragment, f.Written paddedPacket) ↔ out.message ∉ formatErrors) ∧
      ∀ f : Fragment, f.Written paddedPacket →
        out.OfFragment r f 0 amb ∧ ∀ g : Fragment, g.Written paddedPacket → g = f :=
  received_iff_written (by simp [Receiver.Running, Receiver.new]) (by decide) 0
    { clockOpen := 0, clockPass := 0 }

/-! ## §3 Runs with padding -/

section Runs

variable {τ : Type}

/-- Two packets that differ at most in the padding of a type2 header, the bytes 3 and 12 to 15, and
    behind the data of its fragment. -/
def SameUpToPadding (p p' : List UInt8) : Prop :=
  p' = p ∨ ∃ f : Fragment, f.Written p ∧ f.Written p'

/-- Two events that differ at most in the padding of a packet. -/
inductive Event.Repadded : Event τ → Event τ → Prop where
  | receiveFragment (a : Arrival τ) (p' : List UInt8) (hsame : SameUpToPadding a.pSubPacket p') :
      Repadded (.receiveFragment a) (.receiveFragment { a with pSubPacket := p' })
  | pass (e : Event τ) : Repadded e e

/-- The padding makes no difference to a call. -/
theorem Receiver.receiveFragmentFromPtr_repadded (r : Receiver) {p p' : List UInt8}
    (hsame : SameUpToPadding p p') (lFromSource : UInt8) (amb : Ambient) :
    let out := r.receiveFragmentFromPtr p lFromSource amb
    let out' := r.receiveFragmentFromPtr p' lFromSource amb
    out'.message = out.message ∧ out'.receiver = out.receiver ∧ out'.handed = out.handed := by
  intro out out'
  rcases hsame with rfl | ⟨f, hf, hf'⟩
  · exact ⟨rfl, rfl, rfl⟩
  by_cases hrunning : r.Running
  case pos =>
    have h := Received.ofFragment hrunning hf lFromSource amb
    have h' := Received.ofFragment hrunning hf' lFromSource amb
    exact ⟨h'.message.trans h.message.symm, h'.receiver.trans h.receiver.symm,
      h'.handed.trans h.handed.symm⟩
  case neg =>
    -- a receiver that was stopped does not look at the packet
    have hstopped := not_not.mp hrunning
    have hout : out' = out := (if_pos hstopped).trans (if_pos hstopped).symm
    rw [hout]
    exact ⟨rfl, rfl, rfl⟩

/-- What is seen of an event, by the receiver in it. -/
theorem Traced.step_seen (s : Traced τ) :
    (∀ a : Arrival τ, (s.step (.receiveFragment a)).2.seen =
      let out := s.receiver.receiveFragmentFromPtr a.pSubPacket a.lFromSource a.amb
      (some out.message, out.handed.map Handed.frame)) ∧
    (∀ lTimeNow, (s.step (.runToCompletionMethod lTimeNow)).2.seen =
      (none, (s.receiver.runToCompletionMethod lTimeNow).handed.map Handed.frame)) ∧
    ∀ lTimeNow, (s.step (.receiverWorkerPass lTimeNow)).2.seen =
      (none, (s.receiver.receiverWorkerPass lTimeNow).handed.map Handed.frame) :=
  ⟨fun _ => congrArg (Prod.mk _) (Traced.handOvers_frames _ _ _),
    fun _ => congrArg (Prod.mk _) (Traced.handOvers_frames _ _ _),
    fun _ => congrArg (Prod.mk _) (Traced.handOvers_frames _ _ _)⟩

/-- **One event**, with the padding of its packet changed. -/
theorem Traced.step_repadded {s s' : Traced τ} (hreceiver : s'.receiver = s.receiver)
    {e e' : Event τ} (h : e.Repadded e') :
    (s'.step e').1.receiver = (s.step e).1.receiver ∧
      (s'.step e').2.seen = (s.step e).2.seen := by
  obtain ⟨hcall, hpass, hworker⟩ := s.step_seen
  obtain ⟨hcall', hpass', hworker'⟩ := s'.step_seen
  cases h with
  | receiveFragment a p' hsame =>
    obtain ⟨hmessage, hafter, hhanded⟩ :=
      s.receiver.receiveFragmentFromPtr_repadded hsame a.lFromSource a.amb
    rw [← hreceiver] at hmessage hafter hhanded
    refine ⟨hafter.trans (by rw [hreceiver]; rfl), ?_⟩
    rw [hcall, hcall', ← hreceiver]
    exact Prod.ext (congrArg some hmessage) (congrArg (List.map Handed.frame) hhanded)
  | pass e =>
    -- the same event, in the same receiver
    cases e with
    | receiveFragment a =>
      refine ⟨?_, by rw [hcall, hcall', hreceiver]⟩
      show (s'.receiver.receiveFragmentFromPtr _ _ _).receiver = _
      rw [hreceiver]
      rfl
    | runToCompletionMethod lTimeNow =>
      refine ⟨?_, by rw [hpass, hpass', hreceiver]⟩
      show (s'.receiver.runToCompletionMethod lTimeNow).receiver = _
      rw [hreceiver]
      rfl
    | receiverWorkerPass lTimeNow =>
      refine ⟨?_, by rw [hworker, hworker', hreceiver]⟩
      show (s'.receiver.receiverWorkerPass lTimeNow).receiver = _
      rw [hreceiver]
      rfl

/-- **Padding is not seen**: two runs of a receiver whose packets differ at most in the padding of
    type2 headers and in what stands behind the data of their fragments give the same results, hand
    out the same superframes at the same events, and end in the same state. -/
theorem padding_unseen (B H : UInt32) (mode : EFPReceiverMode) {es es' : List (Event τ)}
    (h : List.Forall₂ Event.Repadded es es') :
    let machine := receiverMachine τ
    (machine.outputs (.fresh τ B H mode) es').map Report.seen =
        (machine.outputs (.fresh τ B H mode) es).map Report.seen ∧
      (machine.run (.fresh τ B H mode) es').receiver =
        (machine.run (.fresh τ B H mode) es).receiver := by
  intro machine
  suffices hall : ∀ s s' : Traced τ, s'.receiver = s.receiver →
      (machine.outputs s' es').map Report.seen = (machine.outputs s es).map Report.seen ∧
        (machine.run s' es').receiver = (machine.run s es).receiver from hall _ _ rfl
  induction h with
  | nil => exact fun s s' hreceiver => ⟨rfl, hreceiver⟩
  | cons he hes ih =>
    intro s s' hreceiver
    -- the receivers stay the same, whatever the traces hold
    obtain ⟨hafter, hseen⟩ := Traced.step_repadded hreceiver he
    obtain ⟨houtputs, hrun⟩ := ih _ _ hafter
    exact ⟨List.cons_eq_cons.mpr ⟨hseen, houtputs⟩, hrun⟩

/-- Both packets hold the same fragment. -/
theorem paddedPacket_same : SameUpToPadding validArrival.pSubPacket paddedPacket :=
  Or.inr ⟨fragmentType2 validArrival.pSubPacket,
    Fragment.written_iff.mpr (by decide), Fragment.written_iff.mpr (by decide)⟩

/-- A superframe that comes with padding the second time. -/
theorem padding_unseen_padded :
    let machine := receiverMachine Unit
    let es := [Event.receiveFragment validArrival]
    let es' := [Event.receiveFragment { validArrival with pSubPacket := paddedPacket }]
    (machine.outputs (.fresh Unit 100 50 .THREADED) es').map Report.seen =
        (machine.outputs (.fresh Unit 100 50 .THREADED) es).map Report.seen ∧
      (machine.run (.fresh Unit 100 50 .THREADED) es').receiver =
        (machine.run (.fresh Unit 100 50 .THREADED) es).receiver :=
  padding_unseen 100 50 .THREADED
    (.cons (.receiveFragment validArrival paddedPacket paddedPacket_same) .nil)

end Runs

end ElasticFrame
