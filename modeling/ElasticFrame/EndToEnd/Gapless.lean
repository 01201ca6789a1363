import ElasticFrame.EndToEnd.InOrder
import ElasticFrame.EndToEnd.Interleaved
import ElasticFrame.Receiver.Prompt

/-!
# Delivery without Gaps

`delivered_in_order` is about calls in `RUN_TO_COMPLETION` mode, whose fragments stay near the least
superframe that is missing. Here passes of either engine are made between the calls, or in them, at
any times at which no deadline has passed. In head-of-line mode the superframes are then handed over
one after the other without a gap, each of them unbroken, from the lowest one that came to the
first one that is missing.

- `Receiver.headScan_quiet`: what a scan selects when nothing has timed out
- `gapless_among_passes`: every run
-/

namespace ElasticFrame

open ElasticFrame.Lib

/-! ## §1 A scan when nothing has timed out -/

/-- The scan selects complete superframes with orders in a row, and the head is behind them. -/
theorem Receiver.headScan_quiet (r : Receiver) (lTimeNow : ℤ) {es : List (UInt64 × Slot)}
    (horder : ∀ e ∈ es, (r.mBucketList e.2).mDeliveryOrder = e.1)
    (hmax : ∀ e ∈ es, e.1 ≠ UINT64_MAX)
    (hquiet : ∀ e ∈ es, ¬ (r.mBucketList e.2).mTimeout + r.holTimeout ≤ lTimeNow)
    (head : UInt64) :
    ∃ n, (r.headScan lTimeNow es head).1.map (fun e => e.1.toNat) = List.range' head.toNat n ∧
      (r.headScan lTimeNow es head).2.toNat = head.toNat + n ∧
      ∀ e ∈ (r.headScan lTimeNow es head).1, (r.mBucketList e.2).complete = true := by
  induction es generalizing head with
  | nil => exact ⟨0, rfl, rfl, by simp [headScan]⟩
  | cons e es ih =>
    by_cases hexpected : (r.mBucketList e.2).mDeliveryOrder = head ∧ (r.mBucketList e.2).complete
    · obtain ⟨n, hselected, hhead, hcomplete⟩ := ih
        (fun e' he' => horder e' (List.mem_cons_of_mem _ he'))
        (fun e' he' => hmax e' (List.mem_cons_of_mem _ he'))
        (fun e' he' => hquiet e' (List.mem_cons_of_mem _ he')) (head + 1)
      have hsame : e.1 = head := (horder e List.mem_cons_self).symm.trans hexpected.1
      have hnext := toNat_add_one (hmax e List.mem_cons_self)
      rw [hsame] at hnext
      rw [r.headScan_expected lTimeNow es hexpected]
      refine ⟨n + 1, ?_, ?_, ?_⟩
      · rw [List.map_cons, hselected, hsame, hnext, List.range'_succ]
      · rw [hhead, hnext]
        omega
      · exact List.forall_mem_cons.mpr ⟨hexpected.2, hcomplete⟩
    · rw [r.headScan_blocked lTimeNow es hexpected (hquiet e List.mem_cons_self)]
      exact ⟨0, rfl, rfl, by simp⟩

/-! ## §2 The invariant -/

section Invariant

variable {T : Transmission} {as : List (Arrival (ℕ × ℕ))} {s : Traced (ℕ × ℕ)}
  {hs : List (HandOver (ℕ × ℕ))} {first count : ℕ}

/-- As many superframes were handed over, one after the other from this one on. -/
structure InARow (as : List (Arrival (ℕ × ℕ))) (s : Traced (ℕ × ℕ)) (hs : List (HandOver (ℕ × ℕ)))
    (first count : ℕ) : Prop where
  order : hs.map HandOver.superframe = (List.range' first count).map some
  unbroken : ∀ x ∈ hs, x.frame.mBroken = false
  unset : s.receiver.mDeliveryHOLFirstRun = true → count = 0
  head : s.receiver.mDeliveryHOLFirstRun = false →
    s.receiver.mNextExpectedFrameNumber.toNat = first + count
  came : s.receiver.mDeliveryHOLFirstRun = false → ∃ a ∈ as, a.superframe = first

/-- What is selected from complete buckets is handed over unbroken. -/
private theorem passHands_unbroken {lTimeNow : ℤ}
    (hcomplete : ∀ e ∈ (s.receiver.scan lTimeNow).selected,
      (s.receiver.mBucketList e.2).complete = true) :
    ∀ x ∈ s.passHands lTimeNow, x.frame.mBroken = false := by
  intro x hx
  obtain ⟨e, he, d, -, rfl⟩ := mem_passHands.mp hx
  have hwhole := hcomplete e he
  simp only [Bucket.complete, decide_eq_true_eq] at hwhole
  simp [Bucket.assemble, hwhole]

/-- The superframes of a pass are named by the keys of the entries. -/
private theorem passHands_keys (hserving : Serving T as s hs)
    (hindex : ∀ b ∈ as, b.superframe < 2 ^ 64) (lTimeNow : ℤ) :
    (s.passHands lTimeNow).map HandOver.superframe =
      ((s.receiver.scan lTimeNow).selected.map fun e => e.1.toNat).map some := by
  rw [hserving.tracked.passHands_superframes hserving.coherent, List.map_map]
  apply List.map_congr_left
  intro e he
  obtain ⟨o, -, howner, -, hsame⟩ := hserving.tracked.key hserving.coherent hindex
    ((s.receiver.scan_sublist lTimeNow).subset he)
  rw [howner]
  exact congrArg some hsame.symm

/-- **A pass before all deadlines goes on in the row.** -/
theorem InARow.concluded (h : InARow as s hs first count) (hserving : Serving T as s hs)
    (hhol : s.receiver.mHeadOfLineBlockingTimeoutms ≠ 0)
    (hindex : ∀ b ∈ as, b.superframe < 2 ^ 64 - 1) {lTimeNow : ℤ} (hquiet : s.Quiet lTimeNow) :
    ∃ first' count', InARow as (s.concluded lTimeNow) (hs ++ s.passHands lTimeNow) first'
      count' := by
  have hkey : ∀ e ∈ s.receiver.mBucketMap.toList, ∃ o ∈ as, s.owner e.2 = some o ∧
      (s.receiver.mBucketList e.2).mActive = true ∧ e.1.toNat = o.superframe := fun e he =>
    hserving.tracked.key hserving.coherent
      (fun b hb => Nat.lt_of_lt_of_le (hindex b hb) (Nat.sub_le _ _)) he
  by_cases hempty : s.receiver.mBucketMap.toList = []
  · -- nothing to scan
    have hscan := Receiver.scan_of_empty lTimeNow hempty
    have hnone : s.passHands lTimeNow = [] := by
      simp [Traced.passHands, Traced.handOvers, Receiver.collect, hscan]
    have hfirst : (s.concluded lTimeNow).receiver.mDeliveryHOLFirstRun =
        s.receiver.mDeliveryHOLFirstRun := congrArg Receiver.Scan.mDeliveryHOLFirstRun hscan
    have hhead : (s.concluded lTimeNow).receiver.mNextExpectedFrameNumber =
        s.receiver.mNextExpectedFrameNumber :=
      congrArg Receiver.Scan.mNextExpectedFrameNumber hscan
    rw [hnone, List.append_nil]
    exact ⟨first, count, h.order, h.unbroken, by rw [hfirst]; exact h.unset,
      by rw [hfirst, hhead]; exact h.head, by rw [hfirst]; exact h.came⟩
  -- the walk takes complete buckets from the head on, and nothing else
  · obtain ⟨n, hselected, hhead, hcomplete⟩ := s.receiver.headScan_quiet lTimeNow
      (fun e he => (hserving.coherent.entry ((Receiver.mem_toList_iff _ e).mp he)).2)
      (fun e he hmax => by
        obtain ⟨o, hmem, -, -, hsame⟩ := hkey e he
        rw [hmax] at hsame
        have hlt := hindex o hmem
        have hmax : UINT64_MAX.toNat = 2 ^ 64 - 1 := rfl
        omega)
      (fun e he => by
        obtain ⟨o, -, -, hactive, -⟩ := hkey e he
        exact Int.not_le.mpr (hquiet e.2 hactive))
      s.receiver.passHead
    have hscan := Receiver.scan_of_head lTimeNow hhol hempty
    have hkeys := passHands_keys hserving
      (fun b hb => Nat.lt_of_lt_of_le (hindex b hb) (Nat.sub_le _ _)) lTimeNow
    -- the row begins at the head of this pass, or went on up to it
    obtain ⟨start, done, hrow, hreached, hcame⟩ : ∃ start done,
        hs.map HandOver.superframe = (List.range' start done).map some ∧
        s.receiver.passHead.toNat = start + done ∧ ∃ a ∈ as, a.superframe = start := by
      cases hrun : s.receiver.mDeliveryHOLFirstRun with
      | false =>
        refine ⟨first, count, h.order, ?_, h.came hrun⟩
        rw [Receiver.passHead, hrun, if_neg Bool.false_ne_true]
        exact h.head hrun
      | true =>
        obtain ⟨b, rest, hlist⟩ := List.exists_cons_of_ne_nil hempty
        have hmem : b ∈ s.receiver.mBucketMap.toList := hlist ▸ List.mem_cons_self
        obtain ⟨o, ho, -, -, hsame⟩ := hkey b hmem
        have hbegin : s.receiver.passHead = b.1 := by
          rw [Receiver.passHead, hrun, if_pos rfl, Receiver.beginOrder, hlist]
          exact (hserving.coherent.entry ((Receiver.mem_toList_iff _ b).mp hmem)).2
        refine ⟨o.superframe, 0, ?_, by rw [hbegin, hsame]; rfl, o, ho, rfl⟩
        rw [h.order, h.unset hrun]
        rfl
    refine ⟨start, done + n, ?_, ?_, ?_, ?_, ?_⟩
    · rw [List.map_append, hrow, hkeys, hscan, hselected, hreached, ← List.map_append,
        List.range'_append_1]
    -- only complete buckets were taken
    · intro x hx
      rcases List.mem_append.mp hx with hold | hnew
      · exact h.unbroken x hold
      · refine passHands_unbroken (fun e he => ?_) x hnew
        rw [hscan] at he
        exact hcomplete e he
    -- a pass that finds a bucket sets the head
    · intro hset
      have hset : (s.receiver.scan lTimeNow).mDeliveryHOLFirstRun = true := hset
      rw [hscan] at hset
      exact absurd hset Bool.false_ne_true
    · intro _
      show (s.receiver.scan lTimeNow).mNextExpectedFrameNumber.toNat = _
      rw [hscan, hhead, hreached, Nat.add_assoc]
    · exact fun _ => hcame

end Invariant

/-! ## §3 Every run -/

section Runs

variable {T : Transmission} {B H : UInt32} {mode : EFPReceiverMode} {es : List (Event (ℕ × ℕ))}
  {e : Event (ℕ × ℕ)} {first count : ℕ}

/-- When a pass is made, no bucket's deadline has passed. -/
def QuietPasses (B H : UInt32) (mode : EFPReceiverMode) (es : List (Event (ℕ × ℕ))) : Prop :=
  ∀ s e lTimeNow, (receiverMachine (ℕ × ℕ)).Takes (.fresh (ℕ × ℕ) B H mode) es s e →
    MakesPass mode e lTimeNow → (s.beforePass e).Quiet lTimeNow

theorem QuietPasses.of_append {es' : List (Event (ℕ × ℕ))}
    (h : QuietPasses B H mode (es ++ es')) : QuietPasses B H mode es :=
  fun s e lTimeNow ht => h s e lTimeNow (Machine.Takes.of_append _ ht)

/-- An event makes no pass, or one before all deadlines. -/
private theorem Interleaved.quietStep (h : Interleaved T B H mode (es ++ [e]))
    (hquiet : QuietPasses B H mode (es ++ [e])) :
    let s := (receiverMachine (ℕ × ℕ)).run (.fresh (ℕ × ℕ) B H mode) es
    ((s.step e).1 = s.beforePass e ∧ (s.step e).2.handed = []) ∨
      ∃ lTimeNow, (s.beforePass e).Quiet lTimeNow ∧
        (s.step e).1 = (s.beforePass e).concluded lTimeNow ∧
        (s.step e).2.handed = (s.beforePass e).passHands lTimeNow := by
  intro s
  have hserving := h.of_append.serving
  have hcoherent : s.receiver.Coherent := coherent_run B H mode es
  have hconf : s.receiver.Configured B H mode := configured_run B H mode es
  have hnow := fun lTimeNow => hquiet s e lTimeNow (Machine.takes_last _ _ _ _)
  cases e with
  | receiveFragment a =>
    -- a packet of a channel is always unpacked
    have hchannel := h.channel
    rw [arrivals_append] at hchannel
    obtain ⟨f, hpacket, -⟩ :=
      (hserving.admits hchannel (h.free _ a (Machine.takes_last _ _ _ _))).fragment
    obtain ⟨hstep, -, hhanded⟩ := Traced.step_of_fragment hconf.running hpacket
    have hmode : (s.unpacked a f).receiver.mCurrentMode = mode :=
      (hconf.unpack f a.lFromSource a.amb).currentMode
    rw [hstep, hhanded, s.beforePass_call hpacket]
    cases mode with
    | THREADED =>
      -- the call makes no pass
      left
      have hnone : (s.unpacked a f).receiver.runIfToCompletion a.amb.clockPass =
          { receiver := (s.unpacked a f).receiver, handed := [] } :=
        if_neg (by rw [hmode]; decide)
      rw [hnone]
      exact ⟨rfl, rfl⟩
    | RUN_TO_COMPLETION =>
      right
      have hpass : (s.unpacked a f).receiver.runIfToCompletion a.amb.clockPass =
          (s.unpacked a f).receiver.conclude ((s.unpacked a f).receiver.scan a.amb.clockPass) := by
        rw [Receiver.runIfToCompletion, if_pos hmode]
        exact Receiver.runToCompletionMethod_eq _
          (hcoherent.unpack f a.lFromSource a.amb).slotsDistinct _
      have hearly := hnow a.amb.clockPass (.receiveFragment a rfl (by simp [hpacket]))
      rw [s.beforePass_call hpacket] at hearly
      rw [hpass]
      exact ⟨a.amb.clockPass, hearly, rfl, rfl⟩
  | runToCompletionMethod lTimeNow =>
    right
    have hpass := s.receiver.runToCompletionMethod_eq hcoherent.slotsDistinct lTimeNow
    exact ⟨lTimeNow, hnow lTimeNow (.runToCompletionMethod lTimeNow),
      congrArg s.delivered hpass,
      congrArg (fun d : Delivered => s.handOvers lTimeNow d.handed) hpass⟩
  | receiverWorkerPass lTimeNow =>
    have hpass := s.receiver.receiverWorkerPass_eq hcoherent.slotsDistinct lTimeNow
    -- the worker waits for a second bucket before it sets the head
    split at hpass
    case isTrue =>
      exact Or.inl ⟨congrArg s.delivered hpass,
        congrArg (fun d : Delivered => s.handOvers lTimeNow d.handed) hpass⟩
    case isFalse =>
      exact Or.inr ⟨lTimeNow, hnow lTimeNow (.receiverWorkerPass lTimeNow),
        congrArg s.delivered hpass,
        congrArg (fun d : Delivered => s.handOvers lTimeNow d.handed) hpass⟩

/-- **Run lemma.** -/
theorem Interleaved.inARow (hhol : H ≠ 0) (h : Interleaved T B H mode es)
    (hindex : ∀ a ∈ arrivals es, a.superframe < 2 ^ 64 - 1) (hquiet : QuietPasses B H mode es) :
    ∃ first count, InARow (arrivals es)
      ((receiverMachine (ℕ × ℕ)).run (.fresh (ℕ × ℕ) B H mode) es) (handOvers B H mode es) first
        count := by
  induction es using List.reverseRecOn with
  -- the row is empty, and its beginning is not known yet
  | nil => exact ⟨0, 0, rfl, nofun, fun _ => rfl, fun hset => absurd hset (by simp [Traced.fresh,
      Receiver.new]), fun hset => absurd hset (by simp [Traced.fresh, Receiver.new])⟩
  | append_singleton es e ih =>
    obtain ⟨first, count, hrow⟩ := ih h.of_append (fun a ha => hindex a (arrivals_left ha))
      hquiet.of_append
    have hnext := h.next h.of_append.serving
    have hsame :=
      ((receiverMachine (ℕ × ℕ)).run (.fresh (ℕ × ℕ) B H mode) es).beforePass_sameDelivery e
    have hconf := configured_run (τ := ℕ × ℕ) B H mode es
    have hstep := h.quietStep hquiet
    rw [Machine.run_concat, handOvers_concat]
    show ∃ first count, InARow _
      (((receiverMachine (ℕ × ℕ)).run (.fresh (ℕ × ℕ) B H mode) es).step e).1 _ first count
    generalize (receiverMachine (ℕ × ℕ)).run (.fresh (ℕ × ℕ) B H mode) es = s
      at hrow hnext hsame hconf hstep ⊢
    -- unpacking hands nothing over
    have hbefore : InARow (arrivals (es ++ [e])) (s.beforePass e) (handOvers B H mode es) first
        count :=
      { order := hrow.order
        unbroken := hrow.unbroken
        unset := by rw [hsame.holFirstRun]; exact hrow.unset
        head := by rw [hsame.holFirstRun, hsame.nextExpected]; exact hrow.head
        came := by
          rw [hsame.holFirstRun]
          intro hset
          obtain ⟨a, ha, hfirst⟩ := hrow.came hset
          exact ⟨a, arrivals_left ha, hfirst⟩ }
    rcases hstep with ⟨hstep, hhanded⟩ | ⟨lTimeNow, hearly, hstep, hhanded⟩
    · rw [hstep, hhanded, List.append_nil]
      exact ⟨first, count, hbefore⟩
    · rw [hstep, hhanded]
      refine hbefore.concluded hnext (fun hzero => hhol ?_) hindex hearly
      rw [← hconf.holTimeoutms, ← hsame.holTimeoutms, hzero]

/-- **Delivery without gaps.** In head-of-line mode, whatever a channel loses, repeats or reorders
    within its bounds and whatever passes are made: as long as no pass finds a deadline passed, the
    superframes handed over are one after the other without a gap, and each is unbroken and what
    was sent. -/
theorem gapless_among_passes (hhol : H ≠ 0) (h : Interleaved T B H mode es)
    (hindex : ∀ a ∈ arrivals es, a.superframe < 2 ^ 64 - 1) (hquiet : QuietPasses B H mode es) :
    ∃ first count, (handOvers B H mode es).map HandOver.superframe =
        (List.range' first count).map some ∧
      ∀ x ∈ handOvers B H mode es, x.frame.mBroken = false ∧
        ∀ k, x.superframe = some k → (T.calls k).DeliveredAs x.frame := by
  obtain ⟨first, count, hrow⟩ := h.inARow hhol hindex hquiet
  exact ⟨first, count, hrow.order, fun x hx => ⟨hrow.unbroken x hx, fun k hk =>
    h.serving.content x hx k hk (hrow.unbroken x hx)⟩⟩

/-- **No deadline passes in a run that is shorter than the timeouts.** -/
theorem quietPasses_of_short {t : ℤ}
    (hopen : ∀ a, .receiveFragment a ∈ es → t ≤ a.amb.clockOpen)
    (hpass : ∀ e ∈ es, ∀ lTimeNow, MakesPass mode e lTimeNow →
      lTimeNow < t + microseconds B + microseconds H) : QuietPasses B H mode es := by
  rintro s e lTimeNow ⟨pre, post, rfl, rfl⟩ hmakes i hactive
  have hconf := configured_run (τ := ℕ × ℕ) B H mode pre
  have hsame :=
    ((receiverMachine (ℕ × ℕ)).run (.fresh (ℕ × ℕ) B H mode) pre).beforePass_sameDelivery e
  have hsince : ((receiverMachine (ℕ × ℕ)).run (.fresh (ℕ × ℕ) B H mode) pre).InUse
      (OpenedSince B t) :=
    openedSince_run B H mode fun a ha => hopen a (List.mem_append_left _ ha)
  have hdeadline : (((receiverMachine (ℕ × ℕ)).run (.fresh (ℕ × ℕ) B H mode) pre).beforePass
      e).InUse (OpenedSince B t) := by
    cases e with
    | receiveFragment a =>
      cases hpacket : Fragment.ofPacket a.pSubPacket with
      | none => simpa [Traced.beforePass, hpacket] using hsince
      | some f =>
        rw [Traced.beforePass_call _ hpacket]
        exact openedSince_unpacked B H mode hconf hsince
          (hopen a (List.mem_append_right _ List.mem_cons_self)) f
    | runToCompletionMethod lTimeNow => exact hsince
    | receiverWorkerPass lTimeNow => exact hsince
  have hlater : t + microseconds B ≤ _ := hdeadline i hactive
  have hearly := hpass e (List.mem_append_right _ List.mem_cons_self) lTimeNow hmakes
  have hhol : (((receiverMachine (ℕ × ℕ)).run (.fresh (ℕ × ℕ) B H mode) pre).beforePass
      e).receiver.holTimeout = microseconds H := by
    rw [← hconf.holTimeout, Receiver.holTimeout, Receiver.holTimeout, hsame.holTimeoutms]
  rw [hhol]
  omega

/-- The runs of `interleavedRun` are shorter than the timeouts. -/
private theorem interleavedRun_quiet {lTimeNow : ℤ} (hlt : lTimeNow < 150000) :
    QuietPasses 100 50 .THREADED (interleavedRun ++ [.receiverWorkerPass lTimeNow]) := by
  apply quietPasses_of_short (t := 0)
  · intro a ha
    simp only [interleavedRun, List.cons_append, List.nil_append, List.mem_cons,
      Event.receiveFragment.injEq, List.not_mem_nil, or_false, reduceCtorEq, false_or] at ha
    rcases ha with rfl | rfl | rfl <;> decide
  · intro e he t hmakes
    have hwhole : microseconds 100 + microseconds 50 = 150000 := by decide
    simp only [interleavedRun, List.cons_append, List.nil_append, List.mem_cons,
      List.not_mem_nil, or_false] at he
    rcases he with rfl | rfl | rfl | rfl | rfl | rfl <;> cases hmakes
    all_goals first
      | omega
      | exact absurd ‹EFPReceiverMode.THREADED = _› (by decide)

/-- `interleavedRun` is delivered without gaps. -/
theorem gapless_among_passes_waiting :
    ∃ first count, (handOvers 100 50 .THREADED interleavedRun).map HandOver.superframe =
      (List.range' first count).map some := by
  have hquiet : QuietPasses 100 50 .THREADED (interleavedRun ++ [.receiverWorkerPass 30000]) :=
    interleavedRun_quiet (by decide)
  obtain ⟨first, count, horder, -⟩ := gapless_among_passes (by decide) interleavedRun_interleaved
    (by decide) hquiet.of_append
  exact ⟨first, count, horder⟩

/-! ## §4 What a pass leaves -/

/-- What was handed over came whole, and what came is not below the row. -/
private theorem InARow.first_least (hhol : H ≠ 0) (h : Interleaved T B H mode es)
    (hindex : ∀ a ∈ arrivals es, a.superframe < 2 ^ 64 - 1) (hahead : OpensAhead B H mode es)
    (hrow : InARow (arrivals es) ((receiverMachine (ℕ × ℕ)).run (.fresh (ℕ × ℕ) B H mode) es)
      (handOvers B H mode es) first count)
    (hset : ((receiverMachine (ℕ × ℕ)).run (.fresh (ℕ × ℕ) B H mode)
      es).receiver.mDeliveryHOLFirstRun = false) :
    IsLeast {k | ∃ a ∈ arrivals es, a.superframe = k} first := by
  obtain ⟨ks, hks, hkept⟩ := h.headKept hhol hindex hahead
  have hserving := h.serving
  refine ⟨hrow.came hset, ?_⟩
  rintro k ⟨a, ha, rfl⟩
  rcases hserving.kept.retained a ha (hindex a ha) with ⟨x, hx, hsame⟩ | ⟨hactive, o, howner, hsame⟩
  · have hmem : some a.superframe ∈ (List.range' first count).map some := by
      rw [← hrow.order]
      exact List.mem_map.mpr ⟨x, hx, hsame⟩
    obtain ⟨k, hk, hk'⟩ := List.mem_map.mp hmem
    obtain rfl := Option.some.inj hk'
    exact (List.mem_range'_1.mp hk).1
  · -- its bucket is not below the head
    have hfrom := hkept.above _ o hactive howner
    have hhead := hrow.head hset
    omega

/-- **Nothing complete is held back at the head.** -/
private theorem InARow.next_missing (hhol : H ≠ 0) (h : Interleaved T B H mode (es ++ [e]))
    (hindex : ∀ a ∈ arrivals (es ++ [e]), a.superframe < 2 ^ 64 - 1)
    (hahead : OpensAhead B H mode (es ++ [e])) {lTimeNow : ℤ} (hmakes : MakesPass mode e lTimeNow)
    (hrow : InARow (arrivals (es ++ [e]))
      ((receiverMachine (ℕ × ℕ)).run (.fresh (ℕ × ℕ) B H mode) (es ++ [e]))
      (handOvers B H mode (es ++ [e])) first count)
    (hset : ((receiverMachine (ℕ × ℕ)).run (.fresh (ℕ × ℕ) B H mode)
      (es ++ [e])).receiver.mDeliveryHOLFirstRun = false) :
    ¬ T.Received (arrivals (es ++ [e])) (first + count) := by
  intro hreceived
  obtain ⟨ks, hks, hkept⟩ := h.headKept hhol hindex hahead
  have hserving := h.serving
  have hdone := (nothing_due_after (B := B) (H := H) es hmakes).front
  have hconf := configured_run (τ := ℕ × ℕ) B H mode (es ++ [e])
  generalize (receiverMachine (ℕ × ℕ)).run (.fresh (ℕ × ℕ) B H mode) (es ++ [e]) = s
    at hkept hserving hdone hconf hrow hset
  have hhead := hrow.head hset
  -- its bucket is in use, since it was not handed over
  obtain ⟨b, hb, hsame⟩ := hreceived.arrived
  have hlt := hindex b hb
  have hheld : s.Holds (first + count) := by
    have hretained := hserving.kept.retained b hb hlt
    rw [hsame] at hretained
    refine hretained.resolve_left fun ⟨x, hx, hk⟩ => ?_
    have hmem : some (first + count) ∈ (List.range' first count).map some := by
      rw [← hrow.order]
      exact List.mem_map.mpr ⟨x, hx, hk⟩
    simp at hmem
  obtain ⟨hactive, o, howner, hsuperframe⟩ := id hheld
  have horder : ∀ {i : Slot} {o : Arrival (ℕ × ℕ)}, s.owner i = some o →
      (s.receiver.mBucketList i).mDeliveryOrder.toNat = o.superframe := by
    intro i o ho
    have hbound := hindex o (hserving.tracked.owned i o ho)
    have htoNat := orderOf_toNat (r := o.superframe) (by omega) (by omega)
    rw [hserving.tracked.order_eq ho]
    exact_mod_cast htoNat
  have hexpected := horder howner
  rw [hsuperframe] at hexpected
  refine (hdone (fun hzero => hhol (hconf.holTimeoutms.symm.trans hzero)) hset _ hactive
    fun j hj => ?_).2 ⟨UInt64.toNat_inj.mp (hexpected.trans hhead.symm),
      (hserving.kept.complete_iff hserving.tracked hserving.recorded hheld).mpr hreceived⟩
  -- no bucket in use is below the head
  obtain ⟨o', _, howner', -⟩ := hserving.tracked.held j hj
  have hfrom := hkept.above j o' hj howner'
  rw [UInt64.le_iff_toNat_le, hexpected, horder howner']
  omega

/-- **What was handed over after a pass.** When no deadline has passed and no call opened a bucket
    below the head: from the lowest superframe that came to the least one above it that is
    missing. -/
theorem exact_among_passes (hhol : H ≠ 0) (h : Interleaved T B H mode (es ++ [e]))
    (hindex : ∀ a ∈ arrivals (es ++ [e]), a.superframe < 2 ^ 64 - 1)
    (hahead : OpensAhead B H mode (es ++ [e])) (hquiet : QuietPasses B H mode (es ++ [e]))
    {lTimeNow : ℤ} (hmakes : MakesPass mode e lTimeNow)
    (hset : ((receiverMachine (ℕ × ℕ)).run (.fresh (ℕ × ℕ) B H mode)
      (es ++ [e])).receiver.mDeliveryHOLFirstRun = false) :
    ∃ first next, IsLeast {k | ∃ a ∈ arrivals (es ++ [e]), a.superframe = k} first ∧
      IsLeast {k | first ≤ k ∧ ¬ T.Received (arrivals (es ++ [e])) k} next ∧
      (handOvers B H mode (es ++ [e])).map HandOver.superframe =
        (List.range' first (next - first)).map some := by
  obtain ⟨first, count, hrow⟩ := h.inARow hhol hindex hquiet
  refine ⟨first, first + count, hrow.first_least hhol h hindex hahead hset,
    ⟨⟨Nat.le_add_right _ _, hrow.next_missing hhol h hindex hahead hmakes hset⟩, ?_⟩, ?_⟩
  · rintro k ⟨hle, hmissing⟩
    by_contra hlt
    -- it is in the row, so it came whole
    have hmem : some k ∈ (handOvers B H mode (es ++ [e])).map HandOver.superframe := by
      rw [hrow.order]
      exact List.mem_map_of_mem (List.mem_range'_1.mpr ⟨hle, Nat.not_le.mp hlt⟩)
    obtain ⟨x, hx, hk⟩ := List.mem_map.mp hmem
    exact hmissing (h.received hx hk (hrow.unbroken x hx))
  · rw [Nat.add_sub_cancel_left]
    exact hrow.order

/-- `interleavedRun` and one more pass: both superframes came, and both were handed over. -/
theorem exact_among_passes_waiting :
    ∃ first next, IsLeast {k | ∃ a ∈ arrivals (interleavedRun ++ [.receiverWorkerPass 30000]),
        a.superframe = k} first ∧
      IsLeast {k | first ≤ k ∧ ¬ (Transmission.oneByteEach 0).Received
        (arrivals (interleavedRun ++ [.receiverWorkerPass 30000])) k} next ∧
      (handOvers 100 50 .THREADED (interleavedRun ++ [.receiverWorkerPass 30000])).map
        HandOver.superframe = (List.range' first (next - first)).map some := by
  apply exact_among_passes (by decide) (interleavedRun_interleaved.pass (Or.inr rfl)).1 (by decide)
    _ (interleavedRun_quiet (by decide)) (.receiverWorkerPass 30000)
  · decide +kernel
  · intro s a htakes
    rcases (Machine.takes_concat_iff _).mp htakes with hbefore | ⟨-, hlast⟩
    · exact interleavedRun_ahead s a hbefore
    · exact absurd hlast (by simp)

end Runs

end ElasticFrame
