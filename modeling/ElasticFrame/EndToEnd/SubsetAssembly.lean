import ElasticFrame.EndToEnd.Assembly
import ElasticFrame.Sender.Law

/-!
# Assembly by the Set of Fragments

A bucket that gets fragments of one superframe only, in any order and any number of times: what it
holds depends on which of them arrived, and on nothing else. Each kind of fragment can be the one
that opens the bucket, with its own way to find the sizes; the invariant says that they all agree.

- `Receiver.unpackPacket`: a call up to the delivery at its end
- `Parcel.Assembles`: the invariant, over the list of the fragments that arrived
- `subset_assembly`: the bucket holds what the set of the packets that arrived says
-/

namespace ElasticFrame

open ElasticFrame.Lib

/-! ## §1 Sizes and places in a parcel -/

namespace Parcel

variable (P : Parcel)

/-- `mFrameSize` when these fragments have arrived: right as soon as the fragment that closes the
    data is in, and otherwise as if all fragments but the last were full. -/
def frameSizeOf (fs : List Fragment) : ℕ :=
  if P.closing ∈ fs then P.payload.length else P.size * P.last.toNat

/-- Without data behind the type1 fragments both are the same. -/
theorem frameSizeOf_of_nothing_left (hsplit : P.split = false) (hrest : P.rest = [])
    (fs : List Fragment) : P.frameSizeOf fs = P.payload.length := by
  have hpayload := P.payload_length
  have hlast := P.last_toNat
  rw [hrest] at hpayload
  rw [hsplit] at hlast
  have hlast : P.last.toNat = P.full := hlast
  rw [frameSizeOf, hlast, hpayload]
  exact ite_self _

/-- The size that an opening fragment sets. -/
theorem opened_frameSize {f : Fragment} (hf : f ∈ P.fragments) :
    (f.newBucketData true).mFrameSize = P.frameSizeOf [f] := by
  by_cases hclosing : P.closing = f
  · subst hclosing
    rw [frameSizeOf, if_pos List.mem_cons_self]
    exact P.opened_size hf (Or.inl rfl)
  · have hnot : P.closing ∉ [f] := fun hmem => hclosing (List.mem_singleton.mp hmem)
    rw [frameSizeOf, if_neg hnot]
    rcases P.mem_fragments.mp hf with ⟨p, hp, rfl⟩ | ⟨hsplit, rfl⟩ | rfl
    · show sizeT ((P.type1 p).data.length * P.last.toNat) = _
      rw [P.type1_length hp]
      exact P.sizeT_eq (n := 0) P.last_le (by decide)
    · exact absurd (if_pos hsplit) hclosing
    · -- the type2 fragment closes the data unless a type3 fragment does
      have hsplit : P.split = true := by
        by_contra hsplit
        exact hclosing (if_neg hsplit)
      have htail : P.tail = [] := if_pos hsplit
      show sizeT ((UInt16.ofNat P.size).toNat * P.last.toNat + P.type2Header.hSizeOfData.toNat) = _
      rw [P.size_toNat, P.hSizeOfData_eq, htail]
      exact P.sizeT_eq (n := 0) P.last_le (by decide)

/-- The size after a fragment was added. -/
theorem added_frameSize {f : Fragment} (hf : f ∈ P.fragments) (fs : List Fragment) :
    f.fillFrameSize P.size (P.frameSizeOf fs) = P.frameSizeOf (fs ++ [f]) := by
  by_cases hclosing : P.closing = f
  · subst hclosing
    have hmem : P.closing ∈ fs ++ [P.closing] := List.mem_append_right _ List.mem_cons_self
    have hright : P.frameSizeOf (fs ++ [P.closing]) = P.payload.length := if_pos hmem
    rw [hright]
    rcases P.filled_size hf (P.frameSizeOf fs) with hset | ⟨hkept, hnothing⟩
    · exact hset
    · obtain ⟨hsplit, hrest⟩ := hnothing (Or.inl rfl)
      rw [hkept]
      exact P.frameSizeOf_of_nothing_left hsplit hrest fs
  · have hsame : P.frameSizeOf (fs ++ [f]) = P.frameSizeOf fs := by
      simp [frameSizeOf, hclosing]
    rw [hsame]
    rcases P.mem_fragments.mp hf with ⟨p, hp, rfl⟩ | ⟨hsplit, rfl⟩ | rfl
    · rfl
    · exact absurd (if_pos hsplit) hclosing
    · have hsplit : P.split = true := by
        by_contra hsplit
        exact hclosing (if_neg hsplit)
      have htail : P.tail = [] := if_pos hsplit
      have hzero : P.type2Header.hSizeOfData = 0 := by
        apply UInt16.toNat_inj.mp
        rw [P.hSizeOfData_eq, htail]
        rfl
      show (if P.type2Header.hSizeOfData = 0 then _ else _) = _
      exact if_pos hzero

/-- The place of a fragment in the data: behind that of the fragments before it. -/
def offset (i : ℕ) : ℕ := ((P.fragments.take i).map fun f => f.data.length).sum

theorem offset_succ {i : ℕ} {f : Fragment} (hf : P.fragments[i]? = some f) :
    P.offset (i + 1) = P.offset i + f.data.length := by
  simp [offset, List.take_add_one, hf]

/-- The type1 payloads stand one after the other. -/
theorem offset_full {i : ℕ} (hi : i ≤ P.full) : P.offset i = P.size * i := by
  induction i with
  | zero => rfl
  | succ i ih =>
    rw [P.offset_succ (P.fragments_type1 hi), ih (Nat.le_of_succ_le hi), P.type1_length hi,
      Nat.mul_succ]

theorem fragments_closing : P.fragments[P.full]? = some P.closing := by
  rw [fragments, List.append_assoc, List.getElem?_append_right (by simp)]
  unfold closing
  cases P.split <;> simp

/-- Where a fragment is in the list: a full piece, the one that closes the data, or an empty type2
    fragment behind it. -/
theorem fragments_cases {i : ℕ} {f : Fragment} (hf : P.fragments[i]? = some f) :
    (i < P.full ∧ f.data.length = P.size) ∨ (i = P.full ∧ f = P.closing) ∨
      (i = P.full + 1 ∧ P.split = true ∧ f.data = []) := by
  rcases Nat.lt_trichotomy i P.full with hlt | rfl | hgt
  · rw [P.fragments_type1 hlt] at hf
    obtain rfl := Option.some.inj hf
    exact Or.inl ⟨hlt, P.type1_length hlt⟩
  · rw [P.fragments_closing] at hf
    exact Or.inr (Or.inl ⟨rfl, (Option.some.inj hf).symm⟩)
  · -- only an empty type2 fragment is left
    obtain ⟨hlen, -⟩ := List.getElem?_eq_some_iff.mp hf
    rw [P.fragments_length] at hlen
    have hone : P.split.toNat ≤ 1 := Bool.toNat_le _
    have hsplit : P.split = true := by
      by_contra hsplit
      have hsplit : P.split = false := by simpa using hsplit
      rw [hsplit] at hlen
      have hlen : i < P.full + 0 + 1 := hlen
      omega
    obtain rfl : i = P.full + 1 := by omega
    have hlast : P.fragments[P.full + 1]? = some P.type2 := by
      have hget := P.fragments_getLast
      rw [List.getLast?_eq_getElem?, P.fragments_length, hsplit] at hget
      exact hget
    obtain rfl := Option.some.inj (hf.symm.trans hlast)
    exact Or.inr (Or.inr ⟨rfl, hsplit, if_pos hsplit⟩)

/-- A fragment that is not empty stands where the receiver puts it. -/
theorem offset_eq {i : ℕ} {f : Fragment} (hf : P.fragments[i]? = some f) (hdata : f.data ≠ []) :
    P.offset i = P.size * f.fragmentNo.toNat := by
  rw [P.fragment_position hf]
  rcases P.fragments_cases hf with ⟨hlt, -⟩ | ⟨rfl, -⟩ | ⟨-, -, hempty⟩
  · exact P.offset_full hlt.le
  · exact P.offset_full le_rfl
  · exact absurd hempty hdata

/-- **Whatever has arrived, it is inside the stored size.** -/
theorem offset_le_frameSizeOf {i : ℕ} {f : Fragment} {fs : List Fragment}
    (hf : P.fragments[i]? = some f) (hmem : f ∈ fs) :
    P.offset i + f.data.length ≤ P.frameSizeOf fs := by
  have hpayload := P.payload_length
  have hrest := P.rest_length_le
  have hlast := P.last_toNat
  unfold frameSizeOf
  rcases P.fragments_cases hf with ⟨hlt, hlen⟩ | ⟨rfl, rfl⟩ | ⟨rfl, hsplit, hempty⟩
  · have hpiece : P.size * i + P.size ≤ P.size * P.full := by
      rw [← Nat.mul_succ]
      exact Nat.mul_le_mul_left _ hlt
    have hcount : P.size * P.full ≤ P.size * P.last.toNat := Nat.mul_le_mul_left _ (by omega)
    rw [P.offset_full hlt.le, hlen]
    split <;> omega
  · rw [if_pos hmem, P.offset_full le_rfl, P.closing_spec.2]
    exact hpayload.ge
  · rw [P.offset_succ P.fragments_closing, P.offset_full le_rfl, P.closing_spec.2, hempty]
    rw [hsplit] at hlast
    have hlast : P.last.toNat = P.full + 1 := hlast
    rw [hlast, Nat.mul_succ]
    show P.size * P.full + P.rest.length + 0 ≤ _
    split <;> omega

/-- All fragments of a parcel have its flags and its stream. -/
theorem flags_stream {f : Fragment} (hf : f ∈ P.fragments) :
    f.mFlags = P.flags &&& 0xf0 ∧ f.stream = P.hStreamID := by
  have hflags : ∀ kind : Frametype, (kind.value ||| P.flags) &&& 0xf0 = P.flags &&& 0xf0 := by
    intro kind
    have hzero : kind.value &&& 0xf0 = 0 := by cases kind <;> rfl
    have hdistrib : (kind.value ||| P.flags) &&& 0xf0 =
        (kind.value &&& 0xf0) ||| (P.flags &&& 0xf0) := by
      apply UInt8.toBitVec_inj.mp
      exact BitVec.and_or_distrib_right
    rw [hdistrib, hzero, UInt8.zero_or]
  rcases P.mem_fragments.mp hf with ⟨p, _, rfl⟩ | ⟨_, rfl⟩ | rfl
  · exact ⟨hflags .type1, rfl⟩
  · exact ⟨hflags .type3, rfl⟩
  · exact ⟨hflags .type2, rfl⟩

end Parcel

/-! ## §2 The bucket of a superframe -/

/-- A bucket in use holds these fragments of a parcel, and nothing else. -/
structure Parcel.Assembles (P : Parcel) (b : Bucket) (fs : List Fragment) : Prop where
  active : b.mActive = true
  own : ∀ f ∈ fs, f ∈ P.fragments
  accounted : Accounted b fs
  metadata : HasMetadata b fs
  filled : Filled P b fs
  frameSize : ∀ d, b.mBucketData = some d → d.mFrameSize = P.frameSizeOf fs
  flags : b.mFlags = P.flags &&& 0xf0
  stream : b.mStream = P.hStreamID

namespace Parcel.Assembles

variable {P : Parcel}

/-- A bucket that a fragment opened. -/
theorem opened (r : Receiver) {f : Fragment} (hf : f ∈ P.fragments) (lFromSource : UInt8)
    {amb : Ambient} (halloc : amb.allocates = true) :
    P.Assembles (r.openedWith f lFromSource amb) [f] := by
  obtain ⟨hacc, hmeta⟩ := accounted_opened r f lFromSource amb (P.position_le hf).2.2
  obtain ⟨hflags, hstream⟩ := P.flags_stream hf
  refine ⟨rfl, ?_, hacc, hmeta, Filled.opened r hf lFromSource halloc, ?_, hflags, hstream⟩
  · intro g hg
    obtain rfl := List.mem_singleton.mp hg
    exact hf
  · intro d hd
    obtain rfl := Option.some.inj hd
    show (f.newBucketData amb.allocates).mFrameSize = _
    rw [halloc]
    exact P.opened_frameSize hf

/-- A bucket that a fragment was added to. -/
theorem added {r : Receiver} {f : Fragment} {fs : List Fragment}
    (h : P.Assembles (r.mBucketList f.slot) fs) (hf : f ∈ P.fragments)
    (hsame : f.hSuperFrameNo = (r.mBucketList f.slot).mSavedSuperFrameNo)
    (hpos : f.fragmentNo ≤ (r.mBucketList f.slot).mOfFragmentNo)
    (hof : f.hOfFragmentNo = (r.mBucketList f.slot).mOfFragmentNo)
    (hnew : f.fragmentNo ∉ (r.mBucketList f.slot).mHaveReceivedFragment) :
    P.Assembles (r.filledBucket f) (fs ++ [f]) := by
  have hacc := accounted_added h.accounted hsame hpos hof hnew
  have hfilled := h.filled.added hf h.accounted.ne_nil
  obtain ⟨hactive, -⟩ := r.filledBucket_common f
  obtain ⟨hflags, hstream⟩ := P.flags_stream hf
  refine ⟨hactive.trans h.active, ?_, hacc, metadata_added hacc h.metadata, hfilled, ?_, ?_, ?_⟩
  · intro g hg
    rcases List.mem_append.mp hg with hg | hg
    · exact h.own g hg
    · obtain rfl := List.mem_singleton.mp hg
      exact hf
  · intro d hd
    rw [r.filledBucket_data f, h.filled.size] at hd
    obtain ⟨d', hd', rfl⟩ := Option.map_eq_some_iff.mp hd
    show f.fillFrameSize P.size d'.mFrameSize = _
    rw [h.frameSize d' hd']
    exact P.added_frameSize hf fs
  · -- a type2 fragment writes the flags and the stream again
    cases f with
    | type1 h₁ d₁ => exact h.flags
    | type2 h₂ d₂ => exact hflags
    | type3 h₃ d₃ => exact h.flags
  · cases f with
    | type1 h₁ d₁ => exact h.stream
    | type2 h₂ d₂ => exact hstream
    | type3 h₃ d₃ => exact h.stream

/-- What a bucket says to a fragment of its parcel: its tests pass, and its bit is set when the
    fragment is in. -/
theorem tests {b : Bucket} {fs : List Fragment} (h : P.Assembles b fs) {f : Fragment}
    (hf : f ∈ P.fragments) :
    f.hSuperFrameNo = b.mSavedSuperFrameNo ∧ f.fragmentNo ≤ b.mOfFragmentNo ∧
      f.hOfFragmentNo = b.mOfFragmentNo ∧ (f.fragmentNo ∈ b.mHaveReceivedFragment ↔ f ∈ fs) := by
  obtain ⟨g, hg⟩ := List.exists_mem_of_ne_nil _ h.accounted.ne_nil
  obtain ⟨hnumber, hlast, -⟩ := P.uniform hf
  have hof := h.accounted.mOfFragmentNo_eq h.own
  refine ⟨?_, ?_, hlast.trans hof.symm, ?_⟩
  · rw [← (h.accounted.same g hg).1, (P.uniform (h.own g hg)).1]
    exact hnumber
  · rw [hof]
    exact (P.position_le hf).1
  · rw [h.accounted.received, List.mem_toFinset, List.mem_map]
    constructor
    · rintro ⟨g, hg, hsame⟩
      rwa [P.position_inj (h.own g hg) hf hsame] at hg
    · intro hmem
      exact ⟨f, hmem, rfl⟩

/-- **Step lemma**: a fragment of the parcel that is in is a duplicate, and any other is added. -/
theorem step {r : Receiver} {f : Fragment} {fs : List Fragment}
    (h : P.Assembles (r.mBucketList f.slot) fs) (hf : f ∈ P.fragments) (lFromSource : UInt8)
    (amb : Ambient) :
    (f ∈ fs → (r.unpackFragment f lFromSource amb).message = .duplicatePacketReceived ∧
        (r.unpackFragment f lFromSource amb).receiver = r) ∧
      (f ∉ fs → (r.unpackFragment f lFromSource amb).message = .noError ∧
        P.Assembles ((r.unpackFragment f lFromSource amb).receiver.mBucketList f.slot)
          (fs ++ [f])) := by
  obtain ⟨hsame, hpos, hof, hbit⟩ := h.tests hf
  have hstep := r.unpackFragment_step f lFromSource amb
  generalize r.unpackFragment f lFromSource amb = u at hstep ⊢
  cases hstep with
  | tooOld hidle hold => exact absurd (hidle.symm.trans h.active) Bool.false_ne_true
  | refused hidle hnew hwhy => exact absurd (hidle.symm.trans h.active) Bool.false_ne_true
  | opened hidle hnew halloc hplaced =>
    exact absurd (hidle.symm.trans h.active) Bool.false_ne_true
  | outOfResources hactive hother => exact absurd hsame hother
  | outOfBounds hactive _ hbad =>
    rcases hbad with hlt | hother
    · exact absurd hpos (UInt16.not_le.mpr hlt)
    · exact absurd hof hother
  | duplicate hactive _ _ _ hdup =>
    exact ⟨fun _ => ⟨rfl, rfl⟩, fun hnot => absurd (hbit.mp hdup) hnot⟩
  | added hactive _ _ _ hnew =>
    refine ⟨fun hmem => absurd (hbit.mpr hmem) hnew, fun _ => ⟨rfl, ?_⟩⟩
    show P.Assembles (Function.update r.mBucketList f.slot (r.filledBucket f) f.slot) _
    rw [Function.update_self]
    exact h.added hf hsame hpos hof hnew

end Parcel.Assembles

/-! ## §3 Unpacking without delivery -/

section Runs

variable {τ : Type}

/-- A call of `receiveFragmentFromPtr` up to the delivery at its end: the packet is unpacked. A
    packet that holds no fragment changes nothing. -/
def Receiver.unpackPacket (r : Receiver) (a : Arrival τ) :
    Receiver × Option ElasticFrameMessages :=
  match Fragment.ofPacket a.pSubPacket with
  | some f =>
      let u := r.unpackFragment f a.lFromSource a.amb
      (u.receiver, some u.message)
  | none => (r, none)

theorem Receiver.unpackPacket_eq (r : Receiver) {a : Arrival τ} {f : Fragment}
    (hpacket : Fragment.ofPacket a.pSubPacket = some f) :
    r.unpackPacket a = ((r.unpackFragment f a.lFromSource a.amb).receiver,
      some (r.unpackFragment f a.lFromSource a.amb).message) := by
  simp [unpackPacket, hpacket]

/-- The machine whose inputs are packets that are unpacked, with no delivery in between. -/
def unpackMachine (τ : Type) : Machine Receiver (Arrival τ) (Option ElasticFrameMessages) :=
  ⟨Receiver.unpackPacket⟩

/-- In threaded mode this is all that a call does. -/
theorem Receiver.receiveFragmentFromPtr_threaded {r : Receiver}
    (hmode : r.mCurrentMode = .THREADED) (hrunning : r.Running) (a : Arrival τ) :
    (r.receiveFragmentFromPtr a.pSubPacket a.lFromSource a.amb).receiver = (r.unpackPacket a).1 ∧
      ∀ message ∈ (r.unpackPacket a).2,
        (r.receiveFragmentFromPtr a.pSubPacket a.lFromSource a.amb).message = message := by
  have hidle : ∀ r' : Receiver, r'.mCurrentMode = r.mCurrentMode →
      (r'.runIfToCompletion a.amb.clockPass).receiver = r' := by
    intro r' hsame
    rw [runIfToCompletion, if_neg (by simp [hsame, hmode])]
  have hstep := r.receiveFragmentFromPtr_step a.pSubPacket a.lFromSource a.amb
  generalize r.receiveFragmentFromPtr a.pSubPacket a.lFromSource a.amb = out at hstep ⊢
  cases hstep with
  | refused message accesses hmessage haccesses =>
    rcases hmessage with ⟨-, hstopped⟩ | ⟨hnone, -⟩
    · exact absurd hrunning hstopped
    · simp [unpackPacket, hnone]
  | cut hnone hsize =>
    rw [unpackPacket, hnone]
    exact ⟨hidle r rfl, fun message hmem => absurd hmem (by simp)⟩
  | fragment f header hpacket =>
    rw [r.unpackPacket_eq hpacket]
    have hsame := (r.unpackFragment_sameDelivery f a.lFromSource a.amb).currentMode
    refine ⟨hidle _ hsame, fun message hmem => ?_⟩
    obtain rfl := Option.some.inj hmem
    rfl

/-- Calls in threaded mode, one after the other, with the worker idle. -/
theorem Receiver.calls_threaded {r : Receiver} (hmode : r.mCurrentMode = .THREADED)
    (hrunning : r.Running) (calls : List (Arrival τ)) :
    calls.foldl
        (fun r a => (r.receiveFragmentFromPtr a.pSubPacket a.lFromSource a.amb).receiver) r =
      (unpackMachine τ).run r calls := by
  induction calls generalizing r with
  | nil => rfl
  | cons a calls ih =>
    have hcall := (receiveFragmentFromPtr_threaded hmode hrunning a).1
    rw [List.foldl_cons, Machine.run_cons, hcall]
    -- the mode and the threads stay
    cases hpacket : Fragment.ofPacket a.pSubPacket with
    | none =>
      have hnothing : (r.unpackPacket a).1 = r := by simp [unpackPacket, hpacket]
      show calls.foldl _ (r.unpackPacket a).1 = (unpackMachine τ).run (r.unpackPacket a).1 calls
      rw [hnothing]
      exact ih hmode hrunning
    | some f =>
      have hsame := r.unpackFragment_sameDelivery f a.lFromSource a.amb
      show calls.foldl _ (r.unpackPacket a).1 = (unpackMachine τ).run (r.unpackPacket a).1 calls
      rw [r.unpackPacket_eq hpacket]
      apply ih (hsame.currentMode.trans hmode)
      unfold Running
      rw [hsame.workerActive, hsame.deliveryActive, hsame.currentMode]
      exact hrunning

/-- The packet is one of these, or holds no fragment of this slot. -/
def Arrival.OwnOrElsewhere (a : Arrival τ) (packets : List (List UInt8)) (i : Slot) : Prop :=
  a.pSubPacket ∈ packets ∨ ∀ f, Fragment.ofPacket a.pSubPacket = some f → f.slot ≠ i

/-- The packet of a fragment of a parcel is the packet of no other. -/
theorem Parcel.toBytes_inj (P : Parcel) {padding : ElasticFrameType2.Padding} {f g : Fragment}
    (hf : f ∈ P.fragments) (hg : g ∈ P.fragments)
    (hsame : f.toBytes padding = g.toBytes padding) : f = g := by
  have hread := P.ofPacket_fragment hf padding
  rw [hsame, P.ofPacket_fragment hg] at hread
  exact (Option.some.inj hread).symm

/-- The fragment in a packet of a parcel. -/
theorem Parcel.exists_of_packet (P : Parcel) {padding : ElasticFrameType2.Padding} {p : List UInt8}
    (hp : p ∈ P.packets padding) :
    ∃ f ∈ P.fragments, f.toBytes padding = p ∧ Fragment.ofPacket p = some f ∧
      f.slot = slotOf P.hSuperFrameNo := by
  obtain ⟨f, hf, rfl⟩ := List.mem_map.mp hp
  exact ⟨f, hf, rfl, P.ofPacket_fragment hf padding, congrArg slotOf (P.uniform hf).1⟩

/-- A packet from elsewhere leaves the slot alone. -/
theorem Receiver.unpackPacket_elsewhere (r : Receiver) {a : Arrival τ} {i : Slot}
    (h : ∀ f, Fragment.ofPacket a.pSubPacket = some f → f.slot ≠ i) :
    (r.unpackPacket a).1.mBucketList i = r.mBucketList i := by
  cases hpacket : Fragment.ofPacket a.pSubPacket with
  | none => simp [unpackPacket, hpacket]
  | some f =>
    rw [r.unpackPacket_eq hpacket]
    exact r.unpackFragment_other f _ _ (h f hpacket).symm

section Parcel

variable {P : Parcel} {padding : ElasticFrameType2.Padding} {r : Receiver} {first : Arrival τ}
  (hidle : (r.mBucketList (slotOf P.hSuperFrameNo)).mActive = false)
  (hnew : r.candidate P.hSuperFrameNo ≠ (r.mBucketList (slotOf P.hSuperFrameNo)).mDeliveryOrder)
  (halloc : first.amb.allocates = true)
  (hfirst : first.pSubPacket ∈ P.packets padding)

include hidle hnew halloc hfirst

/-- The first packet opens the bucket. -/
theorem Parcel.first_opens :
    ∃ f ∈ P.fragments, first.pSubPacket = f.toBytes padding ∧
      (r.unpackPacket first).2 = some .noError ∧
      P.Assembles ((r.unpackPacket first).1.mBucketList (slotOf P.hSuperFrameNo)) [f] := by
  obtain ⟨f, hf, hbytes, hpacket, hslot⟩ := P.exists_of_packet hfirst
  rw [← hslot] at hidle hnew ⊢
  rw [← (P.uniform hf).1] at hnew
  refine ⟨f, hf, hbytes.symm, ?_⟩
  rw [r.unpackPacket_eq hpacket]
  have hstep := Receiver.unpackFragment_freeStep hidle first.lFromSource first.amb
  generalize (r.unpackFragment f first.lFromSource first.amb).message = message at hstep ⊢
  generalize (r.unpackFragment f first.lFromSource first.amb).receiver = r' at hstep ⊢
  cases hstep with
  | tooOld hold => exact absurd hold hnew
  | refused _ hwhy =>
    rcases hwhy with hfails | hmisplaced
    · exact absurd (halloc.symm.trans hfails) (by simp)
    · exact absurd ((P.position_le hf).2.2.symm.trans hmisplaced) (by simp)
  | opened =>
    refine ⟨rfl, ?_⟩
    show P.Assembles (Function.update r.mBucketList f.slot _ f.slot) _
    rw [Function.update_self]
    exact Assembles.opened r hf first.lFromSource halloc

/-- **Run lemma**: the bucket assembles the fragments whose packets have arrived. -/
theorem Parcel.assembles_run {rest : List (Arrival τ)}
    (hrest : ∀ a ∈ rest,
      a.OwnOrElsewhere (P.packets padding) (slotOf P.hSuperFrameNo)) :
    ∃ fs, P.Assembles
        (((unpackMachine τ).run r (first :: rest)).mBucketList (slotOf P.hSuperFrameNo)) fs ∧
      ∀ f ∈ P.fragments, f ∈ fs ↔
        f.toBytes padding ∈ (first :: rest).map Arrival.pSubPacket := by
  induction rest using List.reverseRecOn with
  | nil =>
    obtain ⟨f, hf, hbytes, -, hassembles⟩ := Parcel.first_opens hidle hnew halloc hfirst
    refine ⟨[f], hassembles, fun g hg => ?_⟩
    rw [List.mem_singleton, List.map_singleton, List.mem_singleton, hbytes]
    exact ⟨fun h => by rw [h], P.toBytes_inj hg hf⟩
  | append_singleton rest a ih =>
    obtain ⟨fs, hassembles, hfs⟩ := ih fun b hb => hrest b (List.mem_append_left _ hb)
    rw [← List.cons_append, Machine.run_concat, List.map_append]
    generalize (unpackMachine τ).run r (first :: rest) = r' at hassembles
    show ∃ fs, P.Assembles ((r'.unpackPacket a).1.mBucketList _) fs ∧ _
    by_cases hown : a.pSubPacket ∈ P.packets padding
    · obtain ⟨f, hf, hbytes, hpacket, hslot⟩ := P.exists_of_packet hown
      rw [← hslot] at hassembles ⊢
      obtain ⟨hdup, hadd⟩ := hassembles.step hf a.lFromSource a.amb
      rw [r'.unpackPacket_eq hpacket]
      by_cases hmem : f ∈ fs
      · -- a repetition changes nothing
        rw [(hdup hmem).2]
        refine ⟨fs, hassembles, fun g hg => ?_⟩
        rw [List.mem_append, ← hfs g hg]
        refine ⟨Or.inl, fun h => h.elim id fun hg' => ?_⟩
        rw [List.map_singleton, List.mem_singleton, ← hbytes] at hg'
        rwa [P.toBytes_inj hg hf hg']
      · refine ⟨fs ++ [f], (hadd hmem).2, fun g hg => ?_⟩
        rw [List.mem_append, List.mem_append, hfs g hg, List.mem_singleton, List.map_singleton,
          List.mem_singleton, ← hbytes]
        exact or_congr_right ⟨fun h => by rw [h], P.toBytes_inj hg hf⟩
    · -- a packet from elsewhere
      have helse := (hrest a (List.mem_append_right _ List.mem_cons_self)).resolve_left hown
      rw [r'.unpackPacket_elsewhere helse]
      refine ⟨fs, hassembles, fun g hg => ?_⟩
      rw [List.mem_append, ← hfs g hg]
      refine ⟨Or.inl, fun h => h.elim id fun hg' => ?_⟩
      rw [List.map_singleton, List.mem_singleton] at hg'
      exact absurd (List.mem_map.mpr ⟨g, hg, hg'⟩) hown

/-- The result of every call with a packet of the superframe. -/
theorem Parcel.messages_run {rest : List (Arrival τ)}
    (hrest : ∀ a ∈ rest,
      a.OwnOrElsewhere (P.packets padding) (slotOf P.hSuperFrameNo))
    {pre post : List (Arrival τ)} {a : Arrival τ} (hsplit : first :: rest = pre ++ a :: post)
    (hown : a.pSubPacket ∈ P.packets padding) :
    (((unpackMachine τ).run r pre).unpackPacket a).2 =
      some (if a.pSubPacket ∈ pre.map Arrival.pSubPacket then .duplicatePacketReceived
        else .noError) := by
  cases pre with
  | nil =>
    obtain ⟨rfl, -⟩ := List.cons.inj hsplit
    obtain ⟨f, -, -, hmessage, -⟩ := Parcel.first_opens hidle hnew halloc hfirst
    exact hmessage
  | cons b pre =>
    obtain ⟨rfl, rfl⟩ := List.cons.inj hsplit
    have hpre : ∀ b ∈ pre,
        b.OwnOrElsewhere (P.packets padding) (slotOf P.hSuperFrameNo) :=
      fun b hb => hrest b (List.mem_append_left _ hb)
    obtain ⟨fs, hassembles, hfs⟩ := Parcel.assembles_run hidle hnew halloc hfirst hpre
    obtain ⟨f, hf, hbytes, hpacket, hslot⟩ := P.exists_of_packet hown
    generalize (unpackMachine τ).run r (first :: pre) = r' at hassembles ⊢
    rw [← hslot] at hassembles
    obtain ⟨hdup, hadd⟩ := hassembles.step hf a.lFromSource a.amb
    rw [r'.unpackPacket_eq hpacket, ← hbytes]
    -- it was seen before exactly when it is in the bucket
    split
    case isTrue hseen => exact congrArg some (hdup ((hfs f hf).mpr hseen)).1
    case isFalse hunseen => exact congrArg some (hadd fun h => hunseen ((hfs f hf).mp h)).1

end Parcel

/-! ## §4 The superframe of a call -/

/-- The packets of a superframe that are among these calls. -/
def arrivedOf (packets : List (List UInt8)) (calls : List (Arrival τ)) : Finset (List UInt8) :=
  packets.toFinset ∩ (calls.map Arrival.pSubPacket).toFinset

/-- Where the data of a packet stands in the superframe: behind that of the packets before it. -/
def offsetOf (packets : List (List UInt8)) (i : ℕ) : ℕ :=
  ((packets.take i).map fun p => (payloadOf p).length).sum

/-- A bucket holds the packets in `S` of the superframe of a call, sent with this MTU. Every value
    is given by the call and by `S`. -/
structure Call.Assembled (c : Call) (M : ℕ) (packets : List (List UInt8))
    (S : Finset (List UInt8)) (b : Bucket) : Prop where
  active : b.mActive = true
  complete : b.mFragmentCounter = b.mOfFragmentNo ↔ ∀ p ∈ packets, p ∈ S
  ofFragmentNo : b.mOfFragmentNo.toNat + 1 = packets.length
  fragmentSize : b.mFragmentSize = if Uncut M c.rPacket.length then c.rPacket.length
    else M - ElasticFrameType1.size
  stream : b.mStream = c.lStreamID
  flags : b.mFlags = c.lFlags &&& 0xf0
  /-- The values of the type2 packet, which is the last one. -/
  type2 : ∀ p ∈ packets.getLast?, p ∈ S → b.mPts = c.lPts ∧ b.mDts = c.lDts ∧
    b.mCode = c.lCode ∧ b.mDataContent = c.lDataContent
  data : ∃ d block, b.mBucketData = some d ∧ d.pFrameData = some block ∧
    c.rPacket.length ≤ block.size ∧
    -- the packet behind the type1 packets is the type3 packet, or the type2 packet without one
    (d.mFrameSize = if ∃ p ∈ S, packets[type1Count M c.rPacket.length]? = some p then
      c.rPacket.length else b.mFragmentSize * b.mOfFragmentNo.toNat) ∧
    ((∀ p ∈ packets.drop (type1Count M c.rPacket.length), p ∈ S) →
      d.mFrameSize = c.rPacket.length) ∧
    ∀ i p, packets[i]? = some p → p ∈ S →
      offsetOf packets i + (payloadOf p).length ≤ d.mFrameSize ∧
      ∀ x, x < (payloadOf p).length → block.cell (offsetOf packets i + x) = (payloadOf p)[x]?

/-- What the fragments of a call assemble to. -/
theorem Parcel.Assembles.assembled {s : Sender} {c : Call} (haccepts : s.Accepts c) {P : Parcel}
    (hP : P = s.parcel c haccepts.size) {b : Bucket} {fs : List Fragment} (h : P.Assembles b fs)
    {padding : ElasticFrameType2.Padding} {S : Finset (List UInt8)}
    (hS : ∀ f ∈ P.fragments, f ∈ fs ↔ f.toBytes padding ∈ S) :
    c.Assembled s.mCurrentMTU.toNat (P.packets padding) S b := by
  subst hP
  obtain ⟨hfull, -, hsize⟩ := s.parcel_cut c haccepts.size
  have hpayloads := fun f hf =>
    payloadOf_toBytes ((s.parcel c haccepts.size).typed (f := f) hf) padding
  have hvalues := Sender.type2_values haccepts
  have hflags : (s.parcel c haccepts.size).flags = c.lFlags &&& 0xf0 := rfl
  have hstream : (s.parcel c haccepts.size).hStreamID = c.lStreamID := rfl
  have hpayload : (s.parcel c haccepts.size).payload = c.rPacket := rfl
  generalize s.parcel c haccepts.size = P at *
  have hof := h.accounted.mOfFragmentNo_eq h.own
  have hoffset : ∀ i, offsetOf (P.packets padding) i = P.offset i := by
    intro i
    rw [offsetOf, Parcel.offset, Parcel.packets, ← List.map_take, List.map_map]
    congr 1
    apply List.map_congr_left
    intro f hf
    exact congrArg List.length (hpayloads f (List.mem_of_mem_take hf))
  have hclosing : (∃ p ∈ S, (P.packets padding)[P.full]? = some p) ↔
      P.closing ∈ fs := by
    rw [Parcel.packets, List.getElem?_map, P.fragments_closing, hS _ P.closing_mem]
    simp
  obtain ⟨d, block, hdata, hblock, hroom, hshows, -⟩ := h.filled.memory
  have hframe := h.frameSize d hdata
  refine ⟨h.active, ?_, ?_, h.filled.size.trans hsize, h.stream.trans hstream, ?_, ?_, ?_⟩
  · have hcomplete := h.accounted.complete_iff_all h.own
    rw [Bucket.complete, decide_eq_true_eq] at hcomplete
    rw [hcomplete, Parcel.packets, List.forall_mem_map]
    exact forall₂_congr hS
  · rw [hof, Parcel.packets, List.length_map, P.last_toNat, P.fragments_length]
  · rw [h.flags, hflags, UInt8.and_assoc]
    rfl
  · intro p hp hmem
    rw [Parcel.packets, List.getLast?_map, P.fragments_getLast] at hp
    obtain rfl := Option.some.inj hp
    obtain ⟨hpts, hdts, hcode, hcontent, -⟩ := h.metadata _ _ ((hS _ P.type2_mem).mpr hmem)
    obtain ⟨vpts, vdts, vcode, vcontent, -⟩ := hvalues
    exact ⟨hpts.trans vpts, hdts.trans vdts, hcode.trans vcode, hcontent.trans vcontent⟩
  · rw [← hfull, ← hpayload]
    refine ⟨d, block, hdata, hblock, hroom, ?_, ?_, ?_⟩
    · rw [hframe, Parcel.frameSizeOf, hof, h.filled.size]
      exact if_congr hclosing.symm rfl rfl
    · intro hall
      have hmem : P.closing.toBytes padding ∈ (P.packets padding).drop P.full := by
        apply List.mem_of_getElem? (i := 0)
        rw [List.getElem?_drop, Parcel.packets, List.getElem?_map, Nat.add_zero,
          P.fragments_closing]
        rfl
      rw [hframe, Parcel.frameSizeOf, if_pos ((hS _ P.closing_mem).mpr (hall _ hmem))]
    · intro i p hp hmem
      rw [Parcel.packets, List.getElem?_map] at hp
      obtain ⟨f, hf, rfl⟩ := Option.map_eq_some_iff.mp hp
      have hown := List.mem_of_getElem? hf
      have hin := (hS f hown).mpr hmem
      rw [hoffset, hpayloads f hown, hframe]
      refine ⟨P.offset_le_frameSizeOf hf hin, fun x hx => ?_⟩
      have hne : f.data ≠ [] := List.ne_nil_of_length_pos (Nat.zero_lt_of_lt hx)
      rw [P.offset_eq hf hne, P.slice hown hx]
      exact hshows f hin _ (Nat.le_add_right _ _) (Nat.add_lt_add_left hx _)

/-- **Assembly depends on the set of fragments only.** A superframe is sent with an MTU from 255 on,
    whatever the last packet left in the buffer. A receiver is in any state in which its slot is
    free under another order, and then gets packets of it, in any order and any number of times,
    among packets of other slots, with no delivery in between. Every packet is accepted when it
    comes first and a duplicate when it comes again, and the bucket holds what the set of the
    packets that arrived says. -/
theorem subset_assembly (lSetMTU lSuperFrameNo : UInt16) (mSendBufferEnd : List UInt8)
    (hmtu : UINT8_MAX ≤ lSetMTU.toNat) (c : Call)
    (hsuccess : ((Sender.used lSetMTU lSuperFrameNo mSendBufferEnd).packAndSendFromPtr c).message =
      .noError)
    (r : Receiver) (first : Arrival τ) (rest : List (Arrival τ))
    (hidle : (r.mBucketList (slotOf lSuperFrameNo)).mActive = false)
    (hnew : r.candidate lSuperFrameNo ≠ (r.mBucketList (slotOf lSuperFrameNo)).mDeliveryOrder)
    (halloc : first.amb.allocates = true)
    (hfirst : first.pSubPacket ∈
      ((Sender.used lSetMTU lSuperFrameNo mSendBufferEnd).packAndSendFromPtr c).packets)
    (hrest : ∀ a ∈ rest, a.OwnOrElsewhere
      ((Sender.used lSetMTU lSuperFrameNo mSendBufferEnd).packAndSendFromPtr c).packets
      (slotOf lSuperFrameNo)) :
    let packets :=
      ((Sender.used lSetMTU lSuperFrameNo mSendBufferEnd).packAndSendFromPtr c).packets
    (∀ pre a post, first :: rest = pre ++ a :: post → a.pSubPacket ∈ packets →
        (((unpackMachine τ).run r pre).unpackPacket a).2 =
          some (if a.pSubPacket ∈ pre.map Arrival.pSubPacket then .duplicatePacketReceived
            else .noError)) ∧
      c.Assembled lSetMTU.toNat packets (arrivedOf packets (first :: rest))
        (((unpackMachine τ).run r (first :: rest)).mBucketList (slotOf lSuperFrameNo)) := by
  intro packets
  have hspec := (Sender.used lSetMTU lSuperFrameNo mSendBufferEnd).packAndSendFromPtr_eq c
    (Sender.used_exact hmtu lSuperFrameNo mSendBufferEnd)
  have haccepts := hspec.2 hsuccess
  obtain ⟨P, hP, hnumber⟩ : ∃ P, P = (Sender.used lSetMTU lSuperFrameNo mSendBufferEnd).parcel c
      haccepts.size ∧ P.hSuperFrameNo = lSuperFrameNo := ⟨_, rfl, rfl⟩
  obtain ⟨padding, hpackets⟩ : ∃ padding, packets = P.packets padding := by
    rw [hP]
    exact ⟨_, congrArg Packed.packets (hspec.1 haccepts)⟩
  have hcurrent : (Sender.used lSetMTU lSuperFrameNo mSendBufferEnd).mCurrentMTU = lSetMTU :=
    Sender.new_mCurrentMTU hmtu
  change first.pSubPacket ∈ packets at hfirst
  change ∀ a ∈ rest, a.OwnOrElsewhere packets _ at hrest
  rw [← hnumber] at hidle hnew
  rw [hpackets] at hfirst
  rw [hpackets, ← hnumber] at hrest
  constructor
  · intro pre a post hsplit hown
    rw [hpackets] at hown
    exact Parcel.messages_run hidle hnew halloc hfirst hrest hsplit hown
  · obtain ⟨fs, hassembles, hfs⟩ := Parcel.assembles_run hidle hnew halloc hfirst hrest
    have hS : ∀ f ∈ P.fragments, f ∈ fs ↔
        f.toBytes padding ∈ arrivedOf packets (first :: rest) := by
      intro f hf
      rw [hfs f hf, arrivedOf, Finset.mem_inter, List.mem_toFinset, List.mem_toFinset, hpackets]
      exact (and_iff_right (List.mem_map_of_mem hf)).symm
    have hassembled := hassembles.assembled haccepts hP hS
    rw [hcurrent, ← hpackets, hnumber] at hassembled
    exact hassembled

end Runs

/-- The packet of a position of a superframe that is cut, as it arrives at time 0. -/
def cutArrival (i : ℕ) : Arrival Unit where
  label := ()
  pSubPacket := ((Sender.used 255 65535 []).packAndSendFromPtr
    Sender.cutCall).packets.getD i []
  lFromSource := 0
  amb := { clockOpen := 0, clockPass := 0 }

/-- The type2 packet first, a packet from elsewhere, and the packets of the superframe that are
    left, one of them twice. -/
theorem subset_assembly_cutCall :
    let packets := ((Sender.used 255 65535 []).packAndSendFromPtr
      Sender.cutCall).packets
    let calls := [cutArrival 2, { cutArrival 0 with pSubPacket := [] }, cutArrival 1, cutArrival 1]
    (∀ pre a post, calls = pre ++ a :: post → a.pSubPacket ∈ packets →
        (((unpackMachine Unit).run (Receiver.new 100 0 .THREADED) pre).unpackPacket a).2 =
          some (if a.pSubPacket ∈ pre.map Arrival.pSubPacket then .duplicatePacketReceived
            else .noError)) ∧
      Sender.cutCall.Assembled 255 packets (arrivedOf packets calls)
        (((unpackMachine Unit).run (Receiver.new 100 0 .THREADED) calls).mBucketList
          (slotOf 65535)) :=
  subset_assembly 255 65535 [] (by decide) Sender.cutCall (by decide +kernel)
    (Receiver.new 100 0 .THREADED) (cutArrival 2)
    [{ cutArrival 0 with pSubPacket := [] }, cutArrival 1, cutArrival 1] rfl (by decide +kernel)
    rfl (by decide +kernel) (by
      intro a ha
      simp only [List.mem_cons, List.not_mem_nil, or_false] at ha
      rcases ha with rfl | rfl | rfl
      · right
        intro f hf
        have hnone : Fragment.ofPacket [] = none := by decide
        rw [hnone] at hf
        exact absurd hf (by simp)
      · left
        decide +kernel
      · left
        decide +kernel)

end ElasticFrame
