import ElasticFrame.Receiver.Store
import Mathlib.Data.Finset.Image

/-!
# Accounting of Fragments

What a bucket records about the fragments accepted into it: the bit set of their positions, the
counter, the fragment count they all announce, and the values that the type2 fragment brings.

- `Accounted`: the record agrees with the list of accepted fragments, whatever was sent
- `Accounted.complete_iff`: the test of the delivery engines, a comparison of the counter with the
  announced count, holds exactly when every position was received
-/

namespace ElasticFrame

open ElasticFrame.Lib

/-! ## §1 The record -/

section Record

variable {τ : Type}

/-- The fragments of accepted calls, in order. -/
def fragments (accepted : List (Arrival τ)) : List Fragment :=
  accepted.filterMap fun a => Fragment.ofPacket a.pSubPacket

theorem fragments_singleton {a : Arrival τ} {f : Fragment}
    (hpacket : Fragment.ofPacket a.pSubPacket = some f) : fragments [a] = [f] := by
  simp [fragments, hpacket]

theorem fragments_concat {a : Arrival τ} {f : Fragment}
    (hpacket : Fragment.ofPacket a.pSubPacket = some f) (accepted : List (Arrival τ)) :
    fragments (accepted ++ [a]) = fragments accepted ++ [f] := by
  simp [fragments, hpacket]

/-- The bucket's record of the fragments accepted into it. -/
structure Accounted (b : Bucket) (fs : List Fragment) : Prop where
  opener : fs.head?.map Fragment.fragmentSize = some b.mFragmentSize
  same : ∀ f ∈ fs, f.hSuperFrameNo = b.mSavedSuperFrameNo ∧ f.hOfFragmentNo = b.mOfFragmentNo
  nodup : (fs.map Fragment.fragmentNo).Nodup
  received : b.mHaveReceivedFragment = (fs.map Fragment.fragmentNo).toFinset
  counter : b.mFragmentCounter = UInt16.ofNat (fs.length - 1)
  /-- Every position is within the count, but for the one that wraps in a type3 header. -/
  placed : ∀ f ∈ fs, f.fragmentNo ≤ b.mOfFragmentNo ∨
    ∃ h d, f = .type3 h d ∧ h.hOfFragmentNo = 0

/-- The values that the bucket has from its type2 fragment. -/
def HasMetadata (b : Bucket) (fs : List Fragment) : Prop :=
  ∀ h d, .type2 h d ∈ fs →
    b.mPts = h.hPts ∧ b.mDts = (Fragment.type2 h d).mDts ∧ b.mCode = h.hCode ∧
      b.mDataContent = h.hDataContent ∧ b.mStream = h.hStreamID ∧
      b.mFlags = h.hFrameType &&& 0xf0

/-- The position of an opening fragment is within the count it announces. -/
private theorem placed_of_opened {f : Fragment} (hplaced : f.misplaced = false) :
    f.fragmentNo ≤ f.hOfFragmentNo ∨ ∃ h d, f = .type3 h d ∧ h.hOfFragmentNo = 0 := by
  cases f with
  | type1 h d =>
    left
    have hnot : ¬ h.hOfFragmentNo < h.hFragmentNo := by simpa [Fragment.misplaced] using hplaced
    exact UInt16.not_lt.mp hnot
  | type2 h d => exact Or.inl (UInt16.le_refl _)
  | type3 h d =>
    -- `hOfFragmentNo - 1` wraps for a count of zero only
    by_cases hzero : h.hOfFragmentNo = 0
    · exact Or.inr ⟨h, d, rfl, hzero⟩
    · left
      have hne : h.hOfFragmentNo.toNat ≠ 0 := fun h0 => hzero (UInt16.toNat_inj.mp h0)
      have hlt := h.hOfFragmentNo.toNat_lt
      apply UInt16.le_iff_toNat_le.mpr
      show (h.hOfFragmentNo - 1).toNat ≤ h.hOfFragmentNo.toNat
      rw [UInt16.toNat_sub]
      show (2 ^ 16 - 1 + h.hOfFragmentNo.toNat) % 2 ^ 16 ≤ _
      omega

/-- A bucket just opened accounts for its fragment. -/
theorem accounted_opened (r : Receiver) (f : Fragment) (lFromSource : UInt8) (amb : Ambient)
    (hplaced : f.misplaced = false) :
    Accounted (r.openedWith f lFromSource amb) [f] ∧
      HasMetadata (r.openedWith f lFromSource amb) [f] := by
  constructor
  · refine ⟨rfl, ?_, List.nodup_singleton _, rfl, rfl, ?_⟩
    · intro f' hf'
      obtain rfl := List.mem_singleton.mp hf'
      exact ⟨rfl, rfl⟩
    · intro f' hf'
      obtain rfl := List.mem_singleton.mp hf'
      exact placed_of_opened hplaced
  · intro h d hmem
    obtain rfl := List.mem_singleton.mp hmem
    -- the stream table was written before the bucket read it
    refine ⟨rfl, rfl, ?_, ?_, rfl, rfl⟩
    · simp [Receiver.openedWith, Receiver.openedBucket, Bucket.copy, Fragment.noteStream,
        Fragment.stream]
    · simp [Receiver.openedWith, Receiver.openedBucket, Bucket.copy, Fragment.noteStream,
        Fragment.stream]

/-- A bucket that a fragment was added to accounts for it as well. -/
theorem accounted_added {r : Receiver} {f : Fragment} {fs : List Fragment}
    (h : Accounted (r.mBucketList f.slot) fs)
    (hsame : f.hSuperFrameNo = (r.mBucketList f.slot).mSavedSuperFrameNo)
    (hpos : f.fragmentNo ≤ (r.mBucketList f.slot).mOfFragmentNo)
    (hof : f.hOfFragmentNo = (r.mBucketList f.slot).mOfFragmentNo)
    (hnew : f.fragmentNo ∉ (r.mBucketList f.slot).mHaveReceivedFragment) :
    Accounted (r.filledBucket f) (fs ++ [f]) := by
  obtain ⟨-, hsaved', -, -, hof', hsize', -, hcounter', hreceived'⟩ := r.filledBucket_common f
  have hne : fs ≠ [] := by
    rintro rfl
    exact absurd h.opener (by simp)
  refine ⟨?_, ?_, ?_, ?_, ?_, ?_⟩
  · rw [List.head?_append_of_ne_nil _ hne, hsize']
    exact h.opener
  · intro f' hf'
    rw [hsaved', hof']
    rcases List.mem_append.mp hf' with hf' | hf'
    · exact h.same f' hf'
    · obtain rfl := List.mem_singleton.mp hf'
      exact ⟨hsame, hof⟩
  · rw [List.map_append, List.nodup_append]
    refine ⟨h.nodup, List.nodup_singleton _, ?_⟩
    intro p hp q hq hpq
    obtain rfl := List.mem_singleton.mp hq
    rw [h.received, List.mem_toFinset] at hnew
    exact hnew (hpq ▸ hp)
  · rw [hreceived', h.received, List.map_append, List.map_singleton, List.toFinset_append]
    ext p
    simp
  · -- the counter lags one behind the number of fragments
    have hlen : 0 < fs.length := List.length_pos_of_ne_nil hne
    rw [hcounter', h.counter, List.length_append, List.length_singleton]
    have hsucc : fs.length + 1 - 1 = fs.length - 1 + 1 := by omega
    rw [hsucc, UInt16.ofNat_add]
    rfl
  · intro f' hf'
    rw [hof']
    rcases List.mem_append.mp hf' with hf' | hf'
    · exact h.placed f' hf'
    · obtain rfl := List.mem_singleton.mp hf'
      exact Or.inl hpos

/-- Only one type2 fragment is ever accepted: its position is the announced count. -/
theorem Accounted.type2_unique {b : Bucket} {fs : List Fragment} (h : Accounted b fs)
    {h₁ h₂ : ElasticFrameType2} {d₁ d₂ : List UInt8} (hmem₁ : .type2 h₁ d₁ ∈ fs)
    (hmem₂ : .type2 h₂ d₂ ∈ fs) : Fragment.type2 h₁ d₁ = .type2 h₂ d₂ := by
  have hpos : (Fragment.type2 h₁ d₁).fragmentNo = (Fragment.type2 h₂ d₂).fragmentNo :=
    (h.same _ hmem₁).2.trans (h.same _ hmem₂).2.symm
  exact List.inj_on_of_nodup_map h.nodup hmem₁ hmem₂ hpos

/-- The values of the type2 fragment stay. -/
theorem metadata_added {r : Receiver} {f : Fragment} {fs : List Fragment}
    (hacc : Accounted (r.filledBucket f) (fs ++ [f]))
    (h : HasMetadata (r.mBucketList f.slot) fs) : HasMetadata (r.filledBucket f) (fs ++ [f]) := by
  intro h₂ d hmem
  cases f with
  | type1 h₁ d₁ =>
    rcases List.mem_append.mp hmem with hmem | hmem
    · exact h h₂ d hmem
    · simp at hmem
  | type3 h₃ d₃ =>
    rcases List.mem_append.mp hmem with hmem | hmem
    · exact h h₂ d hmem
    · simp at hmem
  | type2 h₂' d' =>
    -- the fragment just added is the only one of type 2
    have hsame := hacc.type2_unique hmem (List.mem_append_right _ (List.mem_singleton_self _))
    obtain ⟨rfl, rfl⟩ := Fragment.type2.inj hsame
    exact ⟨rfl, rfl, rfl, rfl, rfl, rfl⟩

/-! ## §2 Complete buckets -/

namespace Accounted

variable {b : Bucket} {fs : List Fragment}

theorem ne_nil (h : Accounted b fs) : fs ≠ [] := by
  rintro rfl
  exact absurd h.opener (by simp)

/-- The received positions, as natural numbers. -/
private theorem positions (h : Accounted b fs)
    (hplaced : ∀ f ∈ fs, f.fragmentNo ≤ b.mOfFragmentNo) :
    (b.mHaveReceivedFragment.image UInt16.toNat).card = fs.length ∧
      b.mHaveReceivedFragment.image UInt16.toNat ⊆ Finset.range (b.mOfFragmentNo.toNat + 1) := by
  constructor
  · rw [Finset.card_image_of_injective _ fun _ _ => UInt16.toNat_inj.mp, h.received,
      List.toFinset_card_of_nodup h.nodup, List.length_map]
  · intro p hp
    obtain ⟨q, hq, rfl⟩ := Finset.mem_image.mp hp
    rw [h.received, List.mem_toFinset] at hq
    obtain ⟨f, hf, rfl⟩ := List.mem_map.mp hq
    exact Finset.mem_range.mpr (Nat.lt_succ_of_le (UInt16.le_iff_toNat_le.mp (hplaced f hf)))

/-- There are at most as many fragments as positions, so the 16-bit counter does not wrap. -/
theorem length_le (h : Accounted b fs) (hplaced : ∀ f ∈ fs, f.fragmentNo ≤ b.mOfFragmentNo) :
    fs.length ≤ b.mOfFragmentNo.toNat + 1 := by
  obtain ⟨hcard, hsub⟩ := h.positions hplaced
  have hle := Finset.card_le_card hsub
  rwa [hcard, Finset.card_range] at hle

/-- The counter has reached the announced count when there are as many fragments as positions. -/
theorem complete_iff_length (h : Accounted b fs)
    (hplaced : ∀ f ∈ fs, f.fragmentNo ≤ b.mOfFragmentNo) :
    b.complete = true ↔ fs.length = b.mOfFragmentNo.toNat + 1 := by
  have hle := h.length_le hplaced
  have hpos : 0 < fs.length := List.length_pos_of_ne_nil h.ne_nil
  have hlt := b.mOfFragmentNo.toNat_lt
  unfold Bucket.complete
  rw [decide_eq_true_eq, h.counter, ← UInt16.toNat_inj, UInt16.toNat_ofNat']
  rw [Nat.mod_eq_of_lt (by omega)]
  omega

/-- **Complete means every position.** -/
theorem complete_iff (h : Accounted b fs) (hplaced : ∀ f ∈ fs, f.fragmentNo ≤ b.mOfFragmentNo) :
    b.complete = true ↔ ∀ p, p ≤ b.mOfFragmentNo → ∃ f ∈ fs, f.fragmentNo = p := by
  obtain ⟨hcard, hsub⟩ := h.positions hplaced
  rw [h.complete_iff_length hplaced]
  constructor
  · intro hlength p hp
    -- as many positions as there are: all of them
    have hall : b.mHaveReceivedFragment.image UInt16.toNat =
        Finset.range (b.mOfFragmentNo.toNat + 1) := by
      apply Finset.eq_of_subset_of_card_le hsub
      rw [Finset.card_range, hcard, hlength]
    have hmem : p.toNat ∈ b.mHaveReceivedFragment.image UInt16.toNat := by
      rw [hall, Finset.mem_range]
      exact Nat.lt_succ_of_le (UInt16.le_iff_toNat_le.mp hp)
    obtain ⟨q, hq, hqp⟩ := Finset.mem_image.mp hmem
    obtain rfl := UInt16.toNat_inj.mp hqp
    rw [h.received, List.mem_toFinset] at hq
    exact List.mem_map.mp hq
  · intro hall
    -- every position is received, so there are as many fragments as positions
    have hsup : Finset.range (b.mOfFragmentNo.toNat + 1) ⊆
        b.mHaveReceivedFragment.image UInt16.toNat := by
      intro n hn
      have hn := Nat.lt_succ_iff.mp (Finset.mem_range.mp hn)
      have hlt := b.mOfFragmentNo.toNat_lt
      have hback : (UInt16.ofNat n).toNat = n := by
        rw [UInt16.toNat_ofNat']
        exact Nat.mod_eq_of_lt (by omega)
      obtain ⟨f, hf, hfn⟩ := hall (UInt16.ofNat n)
        (UInt16.le_iff_toNat_le.mpr (by rw [hback]; exact hn))
      refine Finset.mem_image.mpr ⟨UInt16.ofNat n, ?_, hback⟩
      rw [h.received, List.mem_toFinset]
      exact List.mem_map.mpr ⟨f, hf, hfn⟩
    rw [← hcard, Finset.Subset.antisymm hsub hsup, Finset.card_range]

end Accounted

/-! ## §3 Every bucket in use -/

/-- The record of a bucket in use agrees with the calls accepted into it. -/
def Recorded (_ : Slot) (b : Bucket) (accepted : List (Arrival τ)) : Prop :=
  Accounted b (fragments accepted) ∧ HasMetadata b (fragments accepted)

/-- **Unpacking keeps the record.** -/
theorem recorded_unpacked {s : Traced τ} (h : s.InUse Recorded) {a : Arrival τ} {f : Fragment}
    (hpacket : Fragment.ofPacket a.pSubPacket = some f) : (s.unpacked a f).InUse Recorded := by
  apply h.unpacked
  · intro _ _ _ hplaced
    rw [Recorded, fragments_singleton hpacket]
    exact accounted_opened s.receiver f a.lFromSource a.amb hplaced
  · rintro - hsame hpos hof hnew ⟨hacc, hmeta⟩
    rw [Recorded, fragments_concat hpacket]
    have hadded := accounted_added hacc hsame hpos hof hnew
    exact ⟨hadded, metadata_added hadded hmeta⟩

theorem recorded_run (B H : UInt32) (mode : EFPReceiverMode) (es : List (Event τ)) :
    ((receiverMachine τ).run (Traced.fresh τ B H mode) es).InUse Recorded :=
  Traced.inUse_run B H mode fun _ _ _ _ _ hpacket h => recorded_unpacked h hpacket

end Record

end ElasticFrame
