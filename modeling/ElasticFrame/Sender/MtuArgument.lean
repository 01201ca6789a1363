import ElasticFrame.Sender.Law

/-!
# The MTU Argument of the Constructor

The constructor sizes the buffer for type1 packets by its argument and then raises the MTU to
`UINT8_MAX`. What the fragment loop writes into that buffer, and for which arguments and which
superframes the buffer is large enough.

- `Sender.fixedBufferWrites`: the writes to `mSendBufferFixed`, in their order
- `Sender.Sound`: they stay inside, type1 packets have the size of the MTU, no data is lost
- `Sender.sound_iff`: exactly when a call is sound
-/

namespace ElasticFrame

open ElasticFrame.Lib

namespace Sender

/-! ## §1 Writes to the buffer -/

/-- The writes of a call to `mSendBufferFixed`, as offset and size. The fields of the type1 header
    that stay are written before the loop, also when it makes no round; `hFragmentNo` and the data
    are written in each round. -/
def fixedBufferWrites (s : Sender) (c : Call) : List (ℕ × ℕ) :=
  let mtu := s.mCurrentMTU.toNat
  let lPacketSize := c.rPacket.length
  if lPacketSize + ElasticFrameType2.size ≤ mtu then []
  else
    let lDataPayloadType1 := (UInt16.ofNat (mtu - ElasticFrameType1.size)).toNat
    let lOfFragmentNoType1 := UInt16.ofNat (lPacketSize / (mtu - ElasticFrameType1.size))
    [(0, 1), (1, 1), (2, 2), (6, 2)] ++
      (List.replicate lOfFragmentNoType1.toNat
        [(4, 2), (ElasticFrameType1.size, lDataPayloadType1)]).flatten

/-- A call is sound: every write to the buffer for type1 packets stays inside it, the packets of
    the loop have the size of the MTU, and the data of all packets is the data of the call. -/
structure Sound (s : Sender) (c : Call) : Prop where
  inside : ∀ w ∈ s.fixedBufferWrites c, w.1 + w.2 ≤ s.mSendBufferFixed.length
  type1 : ∀ p ∈ (s.packAndSendFromPtr c).packets.take (s.pieces c),
    p.length = s.mCurrentMTU.toNat
  payload : ((s.packAndSendFromPtr c).packets.map payloadOf).flatten = c.rPacket

variable (s : Sender) (c : Call)

/-- A superframe that fits one packet uses no buffer. -/
theorem fixedBufferWrites_single (hsingle : s.Single c) : s.fixedBufferWrites c = [] :=
  if_pos hsingle

/-- A superframe that is cut writes a header, and the data of each piece behind it. -/
theorem mem_fixedBufferWrites (hsize : c.rPacket.length ≤ s.limit) (hsingle : ¬ s.Single c)
    {w : ℕ × ℕ} : w ∈ s.fixedBufferWrites c ↔
      w ∈ [(0, 1), (1, 1), (2, 2), (6, 2)] ∨
        (s.pieces c ≠ 0 ∧ w ∈ [(4, 2), (ElasticFrameType1.size, s.piece)]) := by
  obtain ⟨hpiece, -, hpieces, -⟩ := s.calculations c hsize
  have hcut : ¬ c.rPacket.length + ElasticFrameType2.size ≤ s.mCurrentMTU.toNat := hsingle
  have hquotient : c.rPacket.length / (s.mCurrentMTU.toNat - ElasticFrameType1.size) =
      s.pieces c := rfl
  unfold fixedBufferWrites
  simp only [if_neg hcut, hquotient, hpiece, hpieces, List.mem_append, List.mem_flatten,
    List.mem_replicate]
  constructor
  · rintro (hheader | ⟨l, ⟨hrounds, rfl⟩, hw⟩)
    · exact Or.inl hheader
    · exact Or.inr ⟨hrounds, hw⟩
  · rintro (hheader | ⟨hrounds, hw⟩)
    · exact Or.inl hheader
    · exact Or.inr ⟨_, ⟨hrounds, rfl⟩, hw⟩

/-! ## §2 Sound calls -/

/-- With a buffer of the size of the MTU, or without type1 packets, a call emits the fragments of
    its parcel. -/
private theorem packets_of_buffer (haccepts : s.Accepts c) (hbuffer : s.pieces c = 0 ∨ s.Exact) :
    (s.packAndSendFromPtr c).packets = (s.parcel c haccepts.size).packets (s.padding c) := by
  rw [s.packAndSendFromPtr_accepted c haccepts]
  exact s.emitted_eq c hbuffer haccepts.size (s.padding c)

section Room

/-- A buffer of the size of the MTU, or, when no type1 packet is needed, a superframe that is not
    cut or a buffer that holds a header. -/
def Room : Prop :=
  s.Exact ∨ (s.pieces c = 0 ∧ (s.Single c ∨ ElasticFrameType1.size ≤ s.mSendBufferFixed.length))

variable {s c} (hroom : s.Room c)

include hroom

/-- With this room every write is inside the buffer. -/
private theorem Room.inside (hsize : c.rPacket.length ≤ s.limit) :
    ∀ w ∈ s.fixedBufferWrites c, w.1 + w.2 ≤ s.mSendBufferFixed.length := by
  intro w hw
  have hmtu : 255 ≤ s.mCurrentMTU.toNat := s.mtu_ge
  have hpiece : s.piece = s.mCurrentMTU.toNat - 8 := rfl
  by_cases hsingle : s.Single c
  · rw [s.fixedBufferWrites_single c hsingle] at hw
    exact absurd hw List.not_mem_nil
  · have hheld : 8 ≤ s.mSendBufferFixed.length := by
      rcases hroom with hexact | ⟨-, hfits | hheld⟩
      · rw [hexact]
        omega
      · exact absurd hfits hsingle
      · exact hheld
    rcases (s.mem_fixedBufferWrites c hsize hsingle).mp hw with hheader | ⟨hsome, hround⟩
    · simp only [List.mem_cons, List.not_mem_nil, or_false] at hheader
      rcases hheader with rfl | rfl | rfl | rfl <;> simp only <;> omega
    · -- a round is made only when the buffer has the size of the MTU
      have hexact : s.mSendBufferFixed.length = s.mCurrentMTU.toNat :=
        hroom.resolve_right fun hnone => hsome hnone.1
      simp only [List.mem_cons, List.not_mem_nil, or_false] at hround
      rcases hround with rfl | rfl
      · simp only
        omega
      · show 8 + s.piece ≤ _
        omega

/-- **Enough room makes a call sound.** -/
theorem Room.sound (haccepts : s.Accepts c) : s.Sound c := by
  have hpackets := s.packets_of_buffer c haccepts (hroom.symm.imp And.left id)
  have hlaw := s.law_of_parcel c haccepts.size (s.padding c)
  rw [← hpackets] at hlaw
  refine ⟨hroom.inside haccepts.size, ?_, hlaw.payload⟩
  intro p hp
  obtain ⟨i, hi, hget⟩ := List.mem_take_iff_getElem.mp hp
  have hlt : i < s.pieces c := lt_of_lt_of_le hi (min_le_left _ _)
  -- the rounds of the loop are the type1 packets of the law
  have hcount : i < type1Count s.mCurrentMTU.toNat c.rPacket.length := by
    by_cases huncut : Uncut s.mCurrentMTU.toNat c.rPacket.length
    · have huncut : c.rPacket.length ≤ s.mCurrentMTU.toNat - 32 := huncut
      have hmtu : 255 ≤ s.mCurrentMTU.toNat := s.mtu_ge
      have hpiece : s.piece = s.mCurrentMTU.toNat - 8 := rfl
      have hnone : s.pieces c = 0 := Nat.div_eq_of_lt (by omega)
      rw [hnone] at hlt
      exact absurd hlt (Nat.not_lt_zero i)
    · rw [type1Count, if_neg huncut]
      exact hlt
  refine (hlaw.type1 i p hcount ?_).1
  rw [← hget]
  exact List.getElem?_eq_getElem _

end Room

/-- A packet of the loop has the size of the buffer. -/
theorem first_length (haccepts : s.Accepts c) (hsingle : ¬ s.Single c) (hpos : 0 < s.pieces c) :
    ∃ p ∈ (s.packAndSendFromPtr c).packets.take (s.pieces c),
      p.length = s.mSendBufferFixed.length := by
  have hlength : ∀ bytes, (overwrite s.mSendBufferFixed bytes).length =
      s.mSendBufferFixed.length := by
    intro bytes
    rw [overwrite, List.length_take, List.length_append, List.length_drop]
    omega
  obtain ⟨rounds, hrounds⟩ := Nat.exists_eq_succ_of_ne_zero (Nat.ne_of_gt hpos)
  rw [s.packAndSendFromPtr_accepted c haccepts]
  simp only [emitted, emittedBefore, if_neg hsingle]
  rw [hrounds, type1Loop]
  exact ⟨_, List.mem_cons_self, hlength _⟩

/-! ## §3 The constructor -/

section Constructor

variable (lSetMTU lSuperFrameNo : UInt16) (mSendBufferEnd : List UInt8)

/-- A sender made with a small argument has an MTU of 255 and a buffer of the size it was asked
    for. -/
private theorem new_clamped (hsmall : lSetMTU.toNat < UINT8_MAX) :
    (used lSetMTU lSuperFrameNo mSendBufferEnd).mCurrentMTU = 255 ∧
      (used lSetMTU lSuperFrameNo mSendBufferEnd).mSendBufferFixed.length = lSetMTU.toNat := by
  unfold used setSuperFrameNo new
  rw [dif_pos hsmall]
  exact ⟨rfl, List.length_replicate⟩

/-- On a sender whose argument was raised a call is sound when the superframe is not cut, or cut
    without type1 packets in a buffer that holds their header. -/
private theorem sound_clamped_iff {s : Sender} (hmtu : s.mCurrentMTU.toNat = 255)
    (hsmall : s.mSendBufferFixed.length < UINT8_MAX) (haccepts : s.Accepts c) :
    s.Sound c ↔ c.rPacket.length ≤ UINT8_MAX - ElasticFrameType2.size ∨
      (c.rPacket.length < UINT8_MAX - ElasticFrameType1.size ∧
        ElasticFrameType1.size ≤ s.mSendBufferFixed.length) := by
  have hsingle : s.Single c ↔ c.rPacket.length ≤ 255 - 32 := by
    show c.rPacket.length + 32 ≤ s.mCurrentMTU.toNat ↔ _
    omega
  have hpieces : s.pieces c = c.rPacket.length / (255 - 8) := by
    show c.rPacket.length / (s.mCurrentMTU.toNat - 8) = _
    rw [hmtu]
  constructor
  · intro hsound
    by_cases huncut : s.Single c
    · exact Or.inl (hsingle.mp huncut)
    · right
      -- the header was written, and no packet of the loop is as long as the MTU
      have hheader := hsound.inside (6, 2)
        ((s.mem_fixedBufferWrites c haccepts.size huncut).mpr (Or.inl (by simp)))
      refine ⟨?_, hheader⟩
      by_contra hlong
      have hlong : 247 ≤ c.rPacket.length := Nat.not_lt.mp hlong
      have hpos : 0 < s.pieces c := by
        rw [hpieces]
        exact Nat.div_pos hlong (by decide)
      obtain ⟨p, hp, hplength⟩ := s.first_length c haccepts huncut hpos
      have hfull := hsound.type1 p hp
      rw [hplength, hmtu] at hfull
      exact absurd hfull (Nat.ne_of_lt hsmall)
  · rintro (huncut | ⟨hshort, hheld⟩)
    · have hnone : s.pieces c = 0 := by
        have huncut : c.rPacket.length ≤ 223 := huncut
        rw [hpieces]
        exact Nat.div_eq_of_lt (by omega)
      exact Room.sound (Or.inr ⟨hnone, Or.inl (hsingle.mpr huncut)⟩) haccepts
    · have hnone : s.pieces c = 0 := by
        rw [hpieces]
        exact Nat.div_eq_of_lt hshort
      exact Room.sound (Or.inr ⟨hnone, Or.inr hheld⟩) haccepts

/-- **When a call is sound**, under every number and whatever the last packet left in the other
    buffer: the argument was not raised, or the superframe is not cut, or it is cut without type1
    packets and the buffer holds their header. -/
theorem sound_iff
    (hsuccess : ((used lSetMTU lSuperFrameNo mSendBufferEnd).packAndSendFromPtr c).message =
      .noError) :
    (used lSetMTU lSuperFrameNo mSendBufferEnd).Sound c ↔
      UINT8_MAX ≤ lSetMTU.toNat ∨ c.rPacket.length ≤ UINT8_MAX - ElasticFrameType2.size ∨
        (c.rPacket.length < UINT8_MAX - ElasticFrameType1.size ∧
          ElasticFrameType1.size ≤ lSetMTU.toNat) := by
  have haccepts := (used lSetMTU lSuperFrameNo mSendBufferEnd).accepts_of_success c hsuccess
  rcases Nat.lt_or_ge lSetMTU.toNat UINT8_MAX with hsmall | hlarge
  case inr =>
    have hexact := used_exact hlarge lSuperFrameNo mSendBufferEnd
    exact iff_of_true (Room.sound (Or.inl hexact) haccepts) (Or.inl hlarge)
  case inl =>
    obtain ⟨hcurrent, hlength⟩ := new_clamped lSetMTU lSuperFrameNo mSendBufferEnd hsmall
    have hmtu := congrArg UInt16.toNat hcurrent
    have hclamped := sound_clamped_iff c hmtu (hlength ▸ hsmall) haccepts
    rw [hlength] at hclamped
    rw [hclamped]
    exact (or_iff_right (Nat.not_le.mpr hsmall)).symm

/-- On a sender made with 7, a superframe of 223 bytes is sound, and one of 224 bytes is not. -/
theorem sound_iff_raised :
    (used 7 0 []).Sound { cutCall with rPacket := List.replicate 223 7 } ∧
      ¬ (used 7 0 []).Sound { cutCall with rPacket := List.replicate 224 7 } := by
  constructor
  · rw [sound_iff { cutCall with rPacket := List.replicate 223 7 } 7 0 [] (by decide +kernel)]
    decide +kernel
  · rw [sound_iff { cutCall with rPacket := List.replicate 224 7 } 7 0 [] (by decide +kernel)]
    decide +kernel

/-- The call succeeds, and its first packet has 100 bytes instead of 255. -/
theorem unsound_raised :
    ((new 100).packAndSendFromPtr cutCall).message = .noError ∧ ¬ (new 100).Sound cutCall := by
  refine ⟨by decide +kernel, fun hsound => ?_⟩
  obtain ⟨p, hp, hlength⟩ := (new 100).first_length cutCall
    ((new 100).accepts_of_success cutCall (by decide +kernel)) (by decide +kernel)
    (by decide +kernel)
  have hfull := hsound.type1 p hp
  rw [hlength] at hfull
  exact absurd hfull (by decide)

end Constructor

end Sender

end ElasticFrame
