import ElasticFrame.Receiver.Store
import ElasticFrame.Lib.Machine

/-!
# The Renumbering Follows the True Sequence

`superFrameRecalculator` widens the 16-bit superframe number of the wire to 64 bits. Here the
calls on one receiver are a machine of their own, and the results are about any sequence of
calls on a new receiver.

- `Renumbering.Follows`: the counters of the receiver stand at the true index of the last call
- `Renumbering.outputs_follow`: each call returns the true index modulo `2 ^ 64`, while two
  consecutive indices are at most half the 16-bit range apart
- `Renumbering.outputs_congruent`: whatever is fed in, each call returns a number congruent to
  its argument

The indices are integers. The first one has to be a 16-bit number, as the first call returns its
argument, and the orders compare as the indices do while these lie in the 64-bit range.
-/

namespace ElasticFrame

open ElasticFrame.Lib

/-- The calls to `superFrameRecalculator` on one receiver. -/
def renumbering : Machine Receiver UInt16 UInt64 where
  step r lSuperFrame :=
    ((r.superFrameRecalculator lSuperFrame).2, (r.superFrameRecalculator lSuperFrame).1)

namespace Renumbering

/-- Two consecutive indices differ by a number in the range of an `int16_t`. -/
def Near (t t' : ℤ) : Prop := -32768 ≤ t' - t ∧ t' - t ≤ 32767

/-- What a new receiver returns when it is fed the indices `ts` modulo `2 ^ 16`. -/
def orders (B H : UInt32) (mode : EFPReceiverMode) (ts : List ℤ) : List UInt64 :=
  renumbering.outputs (Receiver.new B H mode) (ts.map UInt16.ofInt)

theorem step_eq (r : Receiver) (n : UInt16) :
    renumbering.step r n = (r.renumbered n, r.candidate n) := by
  simp only [renumbering, r.superFrameRecalculator_eq n]

theorem toBitVec_ofInt (t : ℤ) : (UInt16.ofInt t).toBitVec = BitVec.ofInt 16 t := by
  apply BitVec.toNat_inj.mp
  rw [BitVec.toNat_ofInt]
  simp only [UInt16.ofInt, UInt16.toNat_toBitVec, UInt16.toNat_ofNat']
  omega

/-! ## §1 Following the true index -/

/-- The counters of the receiver stand at the true index `t`. -/
structure Follows (r : Receiver) (t : ℤ) : Prop where
  started : r.mSuperFrameFirstTime = false
  old : r.mOldSuperFrameNumber = UInt16.ofInt t
  recalc : r.mSuperFrameRecalc.toBitVec = BitVec.ofInt 64 t

/-- The first call takes a 16-bit index as it is. -/
theorem follows_first {r : Receiver} {t : ℤ} (hfirst : r.mSuperFrameFirstTime = true)
    (hlo : 0 ≤ t) (hhi : t < 65536) : Follows (r.renumbered (UInt16.ofInt t)) t where
  started := rfl
  old := rfl
  recalc := Receiver.candidate_ofInt_first hfirst (toBitVec_ofInt t) hlo hhi

/-- Every later call moves the counters to the next index. -/
theorem Follows.next {r : Receiver} {t t' : ℤ} (h : Follows r t) (hnear : Near t t') :
    Follows (r.renumbered (UInt16.ofInt t')) t' where
  started := rfl
  old := rfl
  recalc := by
    have hold : r.mOldSuperFrameNumber.toBitVec = BitVec.ofInt 16 t := by
      rw [h.old, toBitVec_ofInt]
    exact Receiver.candidate_ofInt_next h.started hold h.recalc (toBitVec_ofInt t') hnear.1 hnear.2

/-- The order that a call returns is the counter it leaves. -/
theorem Follows.order {r : Receiver} {n : UInt16} {t : ℤ} (h : Follows (r.renumbered n) t) :
    ((r.candidate n).toNat : ℤ) = t % 2 ^ 64 := by
  have hrecalc : (r.candidate n).toBitVec = BitVec.ofInt 64 t := h.recalc
  rw [← UInt64.toNat_toBitVec, hrecalc, BitVec.toNat_ofInt]
  omega

/-- A receiver that stands at `t` follows every chain of indices from there. -/
theorem Follows.outputs {r : Receiver} {t : ℤ} {ts : List ℤ} (h : Follows r t)
    (hchain : (t :: ts).IsChain Near) :
    (renumbering.outputs r (ts.map UInt16.ofInt)).map (fun o => (o.toNat : ℤ)) =
      ts.map (· % 2 ^ 64) := by
  induction ts generalizing r t with
  | nil => rfl
  | cons t' ts ih =>
    obtain ⟨hnear, hrest⟩ := List.isChain_cons_cons.mp hchain
    have hnext := h.next hnear
    simp only [List.map_cons, Machine.outputs, step_eq]
    rw [ih hnext hrest, hnext.order]

/-- **The returned orders are the true indices modulo `2 ^ 64`.** -/
theorem outputs_follow (B H : UInt32) (mode : EFPReceiverMode) {t : ℤ} {ts : List ℤ}
    (hlo : 0 ≤ t) (hhi : t < 65536) (hchain : (t :: ts).IsChain Near) :
    (orders B H mode (t :: ts)).map (fun o => (o.toNat : ℤ)) = (t :: ts).map (· % 2 ^ 64) := by
  have hfirst := follows_first (r := Receiver.new B H mode) rfl hlo hhi
  simp only [orders, List.map_cons, Machine.outputs, step_eq]
  rw [hfirst.outputs hchain, hfirst.order]

/-- The order at a position is the index at that position, modulo `2 ^ 64`. -/
theorem order_at {os : List UInt64} {ts : List ℤ}
    (horders : os.map (fun o => (o.toNat : ℤ)) = ts.map (· % 2 ^ 64)) {i : ℕ} {o : UInt64} {t : ℤ}
    (ho : os[i]? = some o) (ht : ts[i]? = some t) : (o.toNat : ℤ) = t % 2 ^ 64 := by
  have hat := congrArg (fun l => l[i]?) horders
  simpa [ho, ht] using hat

/-! ## §2 Congruence for any input -/

/-- Whatever is fed in, each call on a receiver whose counters agree returns a number congruent
    to its argument. -/
theorem outputs_congruent {r : Receiver}
    (hagree : r.mSuperFrameRecalc.toUInt16 = r.mOldSuperFrameNumber) (numbers : List UInt16) :
    (renumbering.outputs r numbers).map UInt64.toUInt16 = numbers := by
  induction numbers generalizing r with
  | nil => rfl
  | cons n numbers ih =>
    have hcongruent := Receiver.candidate_congruent hagree n
    simp only [Machine.outputs, step_eq, List.map_cons]
    rw [ih hcongruent, hcongruent]

/-! ## §3 The returned orders -/

/-- **Renumbering follows the true sequence.** A new receiver that is fed a chain of indices
    from a 16-bit one on returns each index modulo `2 ^ 64`, and the orders of indices in the
    64-bit range compare as the indices do. Fed with anything, it returns numbers congruent to
    its arguments. -/
theorem superFrameRecalculator_follows (B H : UInt32) (mode : EFPReceiverMode) :
    (∀ (t : ℤ) (ts : List ℤ), 0 ≤ t → t < 65536 → (t :: ts).IsChain Near →
      (orders B H mode (t :: ts)).map (fun o => (o.toNat : ℤ)) = (t :: ts).map (· % 2 ^ 64) ∧
      ((∀ u ∈ t :: ts, 0 ≤ u ∧ u < 2 ^ 64) →
        ∀ (i j : ℕ) (u v : ℤ) (o p : UInt64), (t :: ts)[i]? = some u → (t :: ts)[j]? = some v →
          (orders B H mode (t :: ts))[i]? = some o → (orders B H mode (t :: ts))[j]? = some p →
          (o < p ↔ u < v))) ∧
    ∀ numbers : List UInt16,
      (renumbering.outputs (Receiver.new B H mode) numbers).map UInt64.toUInt16 = numbers := by
  refine ⟨fun t ts hlo hhi hchain => ?_, fun numbers => outputs_congruent rfl numbers⟩
  have hfollow := outputs_follow B H mode hlo hhi hchain
  refine ⟨hfollow, fun hrange i j u v o p hu hv ho hp => ?_⟩
  -- an index in the range is its own order
  have hself : ∀ {k : ℕ} {w : ℤ} {q : UInt64}, (t :: ts)[k]? = some w →
      (orders B H mode (t :: ts))[k]? = some q → (q.toNat : ℤ) = w := by
    intro k w q hw hq
    obtain ⟨hwlo, hwhi⟩ := hrange w (List.mem_of_getElem? hw)
    rw [order_at hfollow hq hw, Int.emod_eq_of_lt hwlo hwhi]
  have hou := hself hu ho
  have hpv := hself hv hp
  rw [UInt64.lt_iff_toNat_lt]
  omega

/-- Across the wrap of the 16-bit number, forward and back. -/
theorem superFrameRecalculator_follows_wrap :
    (orders 0 0 .THREADED [65535, 65536, 65534]).map (fun o => (o.toNat : ℤ)) =
        [65535, 65536, 65534].map (· % 2 ^ 64) ∧
      ∀ o p, (orders 0 0 .THREADED [65535, 65536, 65534])[2]? = some o →
        (orders 0 0 .THREADED [65535, 65536, 65534])[1]? = some p →
          (o < p ↔ (65534 : ℤ) < 65536) := by
  have hfollow := (superFrameRecalculator_follows 0 0 .THREADED).1 65535 [65536, 65534]
    (by decide) (by decide) (by simp [Near])
  exact ⟨hfollow.1, fun o p ho hp => hfollow.2 (by decide) 2 1 _ _ o p rfl rfl ho hp⟩

/-- The indices `0, 32767, 2 * 32767, …`. -/
def strides (n : ℕ) : List ℤ := (List.range n).map fun i : ℕ => 32767 * (i : ℤ)

theorem strides_chain (n : ℕ) : (strides n).IsChain Near := by
  rw [strides, List.isChain_iff_getElem]
  intro i hi
  simp only [List.getElem_map, List.getElem_range, Near]
  omega

theorem strides_at {n i : ℕ} (hi : i < n) : (strides n)[i]? = some (32767 * (i : ℤ)) := by
  simp [strides, hi]

/-- A new receiver that is fed strides returns them modulo `2 ^ 64`. -/
theorem strides_order (B H : UInt32) (mode : EFPReceiverMode) {n i : ℕ} (hi : i < n) :
    ∃ o, (orders B H mode (strides n))[i]? = some o ∧ (o.toNat : ℤ) = 32767 * (i : ℤ) % 2 ^ 64 := by
  have hzero : (strides n)[0]? = some 0 := strides_at (Nat.zero_lt_of_lt hi)
  obtain ⟨t, ts, hcons⟩ := List.exists_cons_of_ne_nil (l := strides n) (by
    rintro hnil
    simp [hnil] at hzero)
  obtain rfl : t = 0 := by simpa [hcons] using hzero
  have hchain : (0 :: ts).IsChain Near := hcons ▸ strides_chain n
  have hfollow := outputs_follow B H mode (by decide) (by decide) hchain
  rw [← hcons] at hfollow
  -- there are as many orders as indices
  have hlength : (orders B H mode (strides n)).length = n := by
    simpa [strides] using congrArg List.length hfollow
  obtain ⟨o, ho⟩ : ∃ o, (orders B H mode (strides n))[i]? = some o :=
    ⟨_, List.getElem?_eq_getElem (hlength.symm ▸ hi)⟩
  exact ⟨o, ho, order_at hfollow ho (strides_at hi)⟩

/-- Two ways in which the sequence with no bound above, and with no bound below for the first
    index, is not followed. Past `2 ^ 64` the orders start again: of the indices
    `0, 32767, 2 * 32767, …` the one at position 562967133814801 has a smaller order than the
    one at position 1. And a first index of `-1` is returned as 65535. -/
theorem superFrameRecalculator_wraps :
    ((strides 562967133814802).IsChain Near ∧ (∀ t ∈ strides 562967133814802, 0 ≤ t) ∧
      ∃ (u v : ℤ) (o p : UInt64), (strides 562967133814802)[1]? = some u ∧
        (strides 562967133814802)[562967133814801]? = some v ∧
        (orders 0 0 .THREADED (strides 562967133814802))[1]? = some o ∧
        (orders 0 0 .THREADED (strides 562967133814802))[562967133814801]? = some p ∧
        u < v ∧ p < o) ∧
    (orders 0 0 .THREADED [-1]).map (fun o => (o.toNat : ℤ)) = [65535] ∧
      [65535] ≠ [(-1 : ℤ)].map (· % 2 ^ 64) := by
  refine ⟨⟨strides_chain _, ?_, ?_⟩, by decide, by decide⟩
  · intro t ht
    simp only [strides, List.mem_map] at ht
    obtain ⟨i, -, rfl⟩ := ht
    omega
  · obtain ⟨o, ho, hov⟩ := strides_order 0 0 .THREADED (n := 562967133814802) (i := 1) (by decide)
    obtain ⟨p, hp, hpv⟩ := strides_order 0 0 .THREADED (n := 562967133814802)
      (i := 562967133814801) (by decide)
    refine ⟨_, _, o, p, strides_at (by decide), strides_at (by decide), ho, hp, by decide, ?_⟩
    rw [UInt64.lt_iff_toNat_lt]
    omega

end Renumbering

end ElasticFrame
