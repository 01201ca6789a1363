import ElasticFrame.Receiver.Drained

/-!
# Passes Are Prompt

`Deadline` says that no superframe is given up early. This is the other side: a pass leaves nothing
that is due at its time, so no superframe is kept longer than to the first pass behind its
deadline.

- `Receiver.NothingDue`: what a pass at a time leaves, in either mode
- `Coherent.passDone`: both engines leave that, from every state
- `nothing_due_after`: every event of every run that ends with a pass
-/

namespace ElasticFrame

open ElasticFrame.Lib

namespace Receiver

/-! ## §1 What a pass leaves -/

/-- Nothing in use is due at this time. -/
structure NothingDue (r : Receiver) (lTimeNow : ℤ) : Prop where
  /-- Out of head-of-line mode: nothing complete, and nothing behind its deadline. -/
  plain : r.mHeadOfLineBlockingTimeoutms = 0 → ∀ i, (r.mBucketList i).mActive = true →
    lTimeNow < (r.mBucketList i).mTimeout ∧ (r.mBucketList i).complete = false
  /-- In head-of-line mode, once the head is set: the lowest is not complete at the head, and the
      wait for it is not over. -/
  front : r.mHeadOfLineBlockingTimeoutms ≠ 0 → r.mDeliveryHOLFirstRun = false →
    ∀ i, (r.mBucketList i).mActive = true →
    (∀ j, (r.mBucketList j).mActive = true →
      (r.mBucketList i).mDeliveryOrder ≤ (r.mBucketList j).mDeliveryOrder) →
    lTimeNow < (r.mBucketList i).mTimeout + r.holTimeout ∧
      ¬ ((r.mBucketList i).mDeliveryOrder = r.mNextExpectedFrameNumber ∧
        (r.mBucketList i).complete = true)
  /-- Before the head is set: one bucket at most, and not behind its deadline. -/
  first : r.mHeadOfLineBlockingTimeoutms ≠ 0 → r.mDeliveryHOLFirstRun = true →
    (∀ i j, (r.mBucketList i).mActive = true → (r.mBucketList j).mActive = true → i = j) ∧
    ∀ i, (r.mBucketList i).mActive = true → lTimeNow < (r.mBucketList i).mTimeout

variable {r : Receiver} {lTimeNow : ℤ}

/-- The scan of the head stops at an entry that blocks. -/
private theorem headScan_stops (r : Receiver) (lTimeNow : ℤ) (es : List (UInt64 × Slot))
    (head : UInt64) :
    ∃ rest, es = (r.headScan lTimeNow es head).1 ++ rest ∧
      ∀ e ∈ rest.head?, lTimeNow < (r.mBucketList e.2).mTimeout + r.holTimeout ∧
        ¬ ((r.mBucketList e.2).mDeliveryOrder = (r.headScan lTimeNow es head).2 ∧
          (r.mBucketList e.2).complete = true) := by
  induction es generalizing head with
  | nil => exact ⟨[], rfl, by simp⟩
  | cons e es ih =>
    by_cases hexpected : (r.mBucketList e.2).mDeliveryOrder = head ∧ (r.mBucketList e.2).complete
    · obtain ⟨rest, hsplit, hblocks⟩ := ih (head + 1)
      rw [r.headScan_expected lTimeNow es hexpected]
      exact ⟨rest, by rw [List.cons_append, ← hsplit], hblocks⟩
    · by_cases htimeout : (r.mBucketList e.2).mTimeout + r.holTimeout ≤ lTimeNow
      · obtain ⟨rest, hsplit, hblocks⟩ := ih ((r.mBucketList e.2).mDeliveryOrder + 1)
        rw [r.headScan_jump lTimeNow es hexpected htimeout]
        exact ⟨rest, by rw [List.cons_append, ← hsplit], hblocks⟩
      · rw [r.headScan_blocked lTimeNow es hexpected htimeout]
        refine ⟨e :: es, rfl, ?_⟩
        rintro e' he'
        obtain rfl := Option.some.inj he'
        exact ⟨Int.not_le.mp htimeout, hexpected⟩

/-- A bucket in use after the scan was not selected, and nothing happened to it. -/
private theorem release_active {es : List (UInt64 × Slot)} {i : Slot}
    (hactive : ((r.release es).mBucketList i).mActive = true) :
    i ∉ es.map Prod.snd ∧ (r.release es).mBucketList i = r.mBucketList i := by
  simp only [release] at hactive ⊢
  split at hactive
  case isTrue => exact absurd hactive Bool.false_ne_true
  case isFalse hi => exact ⟨hi, if_neg hi⟩

/-- Out of head-of-line mode the scan selects what is due. -/
private theorem Coherent.plain (h : r.Coherent) (hhol : r.mHeadOfLineBlockingTimeoutms = 0)
    {i : Slot} (hactive : (r.mBucketList i).mActive = true)
    (hleft : i ∉ (r.scan lTimeNow).selected.map Prod.snd) :
    lTimeNow < (r.mBucketList i).mTimeout ∧ (r.mBucketList i).complete = false := by
  have hnot : ¬ r.due lTimeNow i = true := by
    intro hdue
    refine hleft (List.mem_map.mpr ⟨((r.mBucketList i).mDeliveryOrder, i), ?_, rfl⟩)
    rw [scan, if_neg fun hon => hon.1 hhol]
    exact List.mem_filter.mpr ⟨h.mem_toList hactive, hdue⟩
  simpa [due] using hnot

/-- In head-of-line mode the lowest bucket that the scan leaves is where it stopped. -/
private theorem Coherent.front (h : r.Coherent) (hhol : r.mHeadOfLineBlockingTimeoutms ≠ 0)
    {i : Slot} (hactive : (r.mBucketList i).mActive = true)
    (hleft : i ∉ (r.scan lTimeNow).selected.map Prod.snd)
    (hlowest : ∀ j, (r.mBucketList j).mActive = true →
      j ∉ (r.scan lTimeNow).selected.map Prod.snd →
      (r.mBucketList i).mDeliveryOrder ≤ (r.mBucketList j).mDeliveryOrder) :
    lTimeNow < (r.mBucketList i).mTimeout + r.holTimeout ∧
      ¬ ((r.mBucketList i).mDeliveryOrder = (r.scan lTimeNow).mNextExpectedFrameNumber ∧
        (r.mBucketList i).complete = true) := by
  have hmem := h.mem_toList hactive
  have hdistinct : (r.mBucketMap.toList.map Prod.snd).Nodup := h.slotsDistinct
  have hsorted := toList_sorted r.mBucketMap
  rw [scan_of_head lTimeNow hhol (List.ne_nil_of_mem hmem)] at hleft hlowest ⊢
  obtain ⟨rest, hsplit, hblocks⟩ := r.headScan_stops lTimeNow r.mBucketMap.toList r.passHead
  generalize (r.headScan lTimeNow r.mBucketMap.toList r.passHead).1 = selected
    at hleft hlowest hsplit
  -- the bucket is behind what is selected, so something is there
  have hrest : ((r.mBucketList i).mDeliveryOrder, i) ∈ rest := by
    rw [hsplit] at hmem
    exact (List.mem_append.mp hmem).resolve_left fun hsel => hleft (List.mem_map_of_mem hsel)
  obtain ⟨e, more, rfl⟩ := List.exists_cons_of_ne_nil (List.ne_nil_of_mem hrest)
  have hentry := h.entry ((mem_toList_iff r.mBucketMap e).mp
    (hsplit ▸ List.mem_append_right _ List.mem_cons_self))
  have hopen : e.2 ∉ selected.map Prod.snd := by
    rw [hsplit, List.map_append, List.map_cons] at hdistinct
    exact fun hsel => (List.nodup_append.mp hdistinct).2.2 _ hsel _ List.mem_cons_self rfl
  have hle := hlowest e.2 hentry.1 hopen
  rw [hentry.2] at hle
  -- and the first of it has the lowest order
  have hsame : e.2 = i := by
    rcases List.mem_cons.mp hrest with heq | hbehind
    · rw [← heq]
    · rw [hsplit] at hsorted
      have hlt := (List.pairwise_cons.mp (List.pairwise_append.mp hsorted).2.1).1 _ hbehind
      exact absurd (UInt64.le_iff_toNat_le.mp hle) (Nat.not_le.mpr hlt)
  rw [← hsame]
  exact hblocks e rfl

/-- **The scan leaves nothing that is due.** -/
private theorem Coherent.concluded (h : r.Coherent) (lTimeNow : ℤ) :
    (r.conclude (r.scan lTimeNow)).receiver.NothingDue lTimeNow := by
  have hkept : ∀ i, ((r.conclude (r.scan lTimeNow)).receiver.mBucketList i).mActive = true →
      i ∉ (r.scan lTimeNow).selected.map Prod.snd ∧
        (r.conclude (r.scan lTimeNow)).receiver.mBucketList i = r.mBucketList i :=
    fun i hi => release_active hi
  have hopen : ∀ i, (r.mBucketList i).mActive = true →
      i ∉ (r.scan lTimeNow).selected.map Prod.snd →
      (r.conclude (r.scan lTimeNow)).receiver.mBucketList i = r.mBucketList i :=
    fun i _ hleft => if_neg hleft
  refine ⟨fun hhol i hi => ?_, fun hhol _ i hi hlowest => ?_, fun hhol hfirst => ?_⟩
  · obtain ⟨hleft, hsame⟩ := hkept i hi
    rw [hsame] at hi ⊢
    exact h.plain hhol hi hleft
  · obtain ⟨hleft, hsame⟩ := hkept i hi
    rw [hsame] at hi hlowest ⊢
    refine h.front hhol hi hleft fun j hj hjleft => ?_
    have hjsame := hopen j hj hjleft
    have hle := hlowest j (by rw [hjsame]; exact hj)
    rwa [hjsame] at hle
  · -- the scan set the head, if there was something to set it
    have hempty : r.mBucketMap.toList = [] := by
      by_contra hsome
      have hhol : r.mHeadOfLineBlockingTimeoutms ≠ 0 := hhol
      have hfirst : (r.scan lTimeNow).mDeliveryHOLFirstRun = true := hfirst
      rw [scan_of_head lTimeNow hhol hsome] at hfirst
      exact absurd hfirst (by simp)
    have hidle : ∀ i, ((r.conclude (r.scan lTimeNow)).receiver.mBucketList i).mActive = true →
        False := by
      intro i hi
      obtain ⟨-, hsame⟩ := hkept i hi
      rw [hsame] at hi
      exact absurd (hempty ▸ h.mem_toList hi) List.not_mem_nil
    exact ⟨fun i _ hi => (hidle i hi).elim, fun i hi => (hidle i hi).elim⟩

/-- A worker that waits for its first run leaves nothing that is due either. -/
private theorem Coherent.awaiting (h : r.Coherent) (hawaits : r.awaitsFirstRun lTimeNow) :
    r.NothingDue lTimeNow := by
  obtain ⟨hhol, hfirst, hnone⟩ := hawaits
  rw [not_or, List.any_eq_true] at hnone
  obtain ⟨hfew, hnone⟩ := hnone
  refine ⟨fun hoff => absurd hoff hhol, fun _ hset => absurd (hfirst.symm.trans hset) (by simp),
    fun _ _ => ⟨fun i j hi hj => ?_, fun i hi => ?_⟩⟩
  · have hlength : r.mBucketMap.toList.length ≤ 1 := by
      rw [Std.ExtTreeMap.length_toList]
      exact Nat.not_lt.mp hfew
    have hi := h.mem_toList hi
    have hj := h.mem_toList hj
    -- there is one entry
    obtain ⟨e, rest, hlist⟩ := List.exists_cons_of_ne_nil (List.ne_nil_of_mem hi)
    have hnone : rest = [] := by
      rw [hlist, List.length_cons] at hlength
      exact List.eq_nil_of_length_eq_zero (by omega)
    rw [hlist, hnone, List.mem_singleton] at hi hj
    exact congrArg Prod.snd (hi.trans hj.symm)
  · by_contra hlate
    exact hnone ⟨_, h.mem_toList hi, decide_eq_true (Int.not_lt.mp hlate)⟩

/-- **Both engines leave nothing that is due.** -/
theorem Coherent.passDone (h : r.Coherent) {d : Delivered}
    (hd : d = r.runToCompletionMethod lTimeNow ∨ d = r.receiverWorkerPass lTimeNow) :
    d.receiver.NothingDue lTimeNow := by
  rcases hd with rfl | rfl
  · rw [r.runToCompletionMethod_eq h.slotsDistinct]
    exact h.concluded lTimeNow
  · rw [r.receiverWorkerPass_eq h.slotsDistinct]
    split
    case isTrue hawaits => exact h.awaiting hawaits
    case isFalse => exact h.concluded lTimeNow

end Receiver

/-! ## §2 Every run -/

section Runs

variable {τ : Type} {B H : UInt32} {mode : EFPReceiverMode}

/-- The events that make a pass, and at which time: those of the two engines, and in
    `RUN_TO_COMPLETION` mode the calls whose packet holds a fragment. -/
inductive MakesPass (mode : EFPReceiverMode) : Event τ → ℤ → Prop where
  | runToCompletionMethod (lTimeNow : ℤ) : MakesPass mode (.runToCompletionMethod lTimeNow) lTimeNow
  | receiverWorkerPass (lTimeNow : ℤ) : MakesPass mode (.receiverWorkerPass lTimeNow) lTimeNow
  | receiveFragment (a : Arrival τ) (hmode : mode = .RUN_TO_COMPLETION)
      (hpacket : (Fragment.ofPacket a.pSubPacket).isSome) :
      MakesPass mode (.receiveFragment a) a.amb.clockPass

/-- **Nothing is kept longer than to the next pass.** After any packets and passes, with any
    timeouts, clocks and failing allocations: an event that makes a pass leaves nothing in use that
    is due at the time of the pass. -/
theorem nothing_due_after (es : List (Event τ)) {e : Event τ} {lTimeNow : ℤ}
    (hpass : MakesPass mode e lTimeNow) :
    ((receiverMachine τ).run (.fresh τ B H mode) (es ++ [e])).receiver.NothingDue lTimeNow := by
  have hcoherent := coherent_run (τ := τ) B H mode es
  have hconf := configured_run (τ := τ) B H mode es
  rw [Machine.run_concat]
  cases hpass with
  | runToCompletionMethod => exact hcoherent.passDone (Or.inl rfl)
  | receiverWorkerPass => exact hcoherent.passDone (Or.inr rfl)
  | receiveFragment a hmode hpacket =>
    obtain ⟨f, hpacket⟩ := Option.isSome_iff_exists.mp hpacket
    obtain ⟨hstep, -⟩ := Traced.step_of_fragment hconf.running hpacket
    have hcurrent : (((receiverMachine τ).run (.fresh τ B H mode) es).unpacked a
        f).receiver.mCurrentMode = .RUN_TO_COMPLETION :=
      ((hconf.unpack f a.lFromSource a.amb).currentMode).trans hmode
    have hnext : ((receiverMachine τ).step ((receiverMachine τ).run (.fresh τ B H mode) es)
        (.receiveFragment a)).1 = _ := hstep
    rw [hnext, Receiver.runIfToCompletion, if_pos hcurrent]
    exact (hcoherent.unpack f a.lFromSource a.amb).passDone (Or.inl rfl)

/-- A lone fragment and a pass before its deadline. -/
theorem nothing_due_after_lone :
    ((receiverMachine Unit).run (.fresh Unit 100 50 .THREADED)
      ([.receiveFragment loneArrival] ++ [.receiverWorkerPass 10000])).receiver.NothingDue 10000 :=
  nothing_due_after _ (.receiverWorkerPass 10000)

end Runs

end ElasticFrame
