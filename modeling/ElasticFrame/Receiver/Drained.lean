import ElasticFrame.Receiver.Deadline

/-!
# Nothing Stays for Ever

A bucket that is never completed waits for its deadline, and in head-of-line mode for the wait
behind it. One pass of either engine after all of these is enough to empty the store, whatever the
packets were: what the calls opened was handed out by then, or given up with an error.

- `AllDue.selected`: such a pass selects every entry
- `late_pass_drains`: every run that ends with such a pass
-/

namespace ElasticFrame

open ElasticFrame.Lib

/-! ## §1 A pass behind all deadlines -/

namespace Receiver

variable {r : Receiver} {lTimeNow : ℤ}

/-- Every deadline has passed, and the wait for the head of the line behind it. -/
def AllDue (r : Receiver) (lTimeNow : ℤ) : Prop :=
  ∀ e ∈ r.mBucketMap.toList, (r.mBucketList e.2).mTimeout + r.holTimeout ≤ lTimeNow

/-- The head jumps from entry to entry. -/
private theorem headScan_allDue {es : List (UInt64 × Slot)} {head : UInt64}
    (hdue : ∀ e ∈ es, (r.mBucketList e.2).mTimeout + r.holTimeout ≤ lTimeNow) :
    (r.headScan lTimeNow es head).1 = es := by
  induction es generalizing head with
  | nil => rfl
  | cons e rest ih =>
    have hrest : ∀ head, (r.headScan lTimeNow rest head).1 = rest := fun head =>
      ih fun e' he' => hdue e' (List.mem_cons_of_mem _ he')
    by_cases hexpected : (r.mBucketList e.2).mDeliveryOrder = head ∧ (r.mBucketList e.2).complete
    · rw [r.headScan_expected lTimeNow rest hexpected, hrest]
    · rw [r.headScan_jump lTimeNow rest hexpected (hdue e List.mem_cons_self), hrest]

/-- The wait for the head of the line is not negative. -/
theorem holTimeout_nonneg (r : Receiver) : 0 ≤ r.holTimeout := Int.natCast_nonneg _

/-- The deadline itself has passed too. -/
private theorem AllDue.timedOut (h : r.AllDue lTimeNow) {e : UInt64 × Slot}
    (he : e ∈ r.mBucketMap.toList) : (r.mBucketList e.2).mTimeout ≤ lTimeNow := by
  have hdue := h e he
  have hnonneg := r.holTimeout_nonneg
  omega

/-- **Every entry is selected.** -/
theorem AllDue.selected (h : r.AllDue lTimeNow) :
    (r.scan lTimeNow).selected = r.mBucketMap.toList := by
  unfold scan
  split
  · exact headScan_allDue h
  · exact List.filter_eq_self.mpr fun e he => by simp [due, h.timedOut he]

/-- Neither engine waits. -/
theorem AllDue.pass (h : r.AllDue lTimeNow) (hdistinct : r.SlotsDistinct) {d : Delivered}
    (hd : d = r.runToCompletionMethod lTimeNow ∨ d = r.receiverWorkerPass lTimeNow) :
    d = r.conclude (r.scan lTimeNow) := by
  rcases hd with rfl | rfl
  · exact r.runToCompletionMethod_eq hdistinct lTimeNow
  · rw [r.receiverWorkerPass_eq hdistinct]
    split
    case isFalse => rfl
    case isTrue hawaits =>
      -- an entry that has timed out would have started the first run, so there is none
      have hempty : r.mBucketMap.toList = [] := by
        by_contra hsome
        obtain ⟨e, he⟩ := List.exists_mem_of_ne_nil _ hsome
        refine hawaits.2.2 (Or.inr (List.any_eq_true.mpr ⟨e, he, ?_⟩))
        exact decide_eq_true (h.timedOut he)
      rw [scan_of_empty lTimeNow hempty, conclude_nil]

/-- A bucket in use is an entry of the map. -/
theorem Coherent.mem_toList (h : r.Coherent) {i : Slot}
    (hactive : (r.mBucketList i).mActive = true) :
    ((r.mBucketList i).mDeliveryOrder, i) ∈ r.mBucketMap.toList :=
  (mem_toList_iff _ _).mpr ((h.index _ _).mpr (holds_of_active hactive))

/-- **The pass empties the store.** -/
theorem AllDue.empties (h : r.AllDue lTimeNow) (hcoherent : r.Coherent) (i : Slot) :
    ((r.conclude (r.scan lTimeNow)).receiver.mBucketList i).mActive = false := by
  simp only [conclude, release, h.selected]
  split
  case isTrue => rfl
  case isFalse hnot =>
    by_contra hactive
    have hactive : (r.mBucketList i).mActive = true := by simpa using hactive
    exact hnot (List.mem_map_of_mem (hcoherent.mem_toList hactive))

/-- The map is empty when no bucket is in use. -/
theorem Coherent.size_eq_zero_iff (h : r.Coherent) :
    r.mBucketMap.size = 0 ↔ ∀ i, (r.mBucketList i).mActive = false := by
  rw [← toList_eq_nil_iff, List.eq_nil_iff_forall_not_mem]
  constructor
  · intro hempty i
    by_contra hactive
    have hactive : (r.mBucketList i).mActive = true := by simpa using hactive
    exact hempty _ (h.mem_toList hactive)
  · intro hidle e he
    have hactive := (h.entry ((mem_toList_iff _ e).mp he)).1
    exact absurd ((hidle e.2).symm.trans hactive) (by simp)

end Receiver

/-! ## §2 Every run -/

section Runs

variable {τ : Type} {B H : UInt32} {mode : EFPReceiverMode} {es : List (Event τ)} {lTimeNow : ℤ}

/-- The deadlines of all calls have passed, and the wait for the head of the line behind them. -/
def Expired (B H : UInt32) (es : List (Event τ)) (lTimeNow : ℤ) : Prop :=
  ∀ a, .receiveFragment a ∈ es → a.amb.clockOpen + microseconds B + microseconds H ≤ lTimeNow

/-- They stay behind. -/
theorem Expired.mono (h : Expired B H es lTimeNow) {es' : List (Event τ)} {t : ℤ}
    (hcalls : ∀ a, .receiveFragment a ∈ es' → .receiveFragment a ∈ es) (hle : lTimeNow ≤ t) :
    Expired B H es' t :=
  fun a ha => (h a (hcalls a ha)).trans hle

/-- The buckets in use were opened by calls of the run. -/
theorem Expired.allDue (h : Expired B H es lTimeNow) :
    ((receiverMachine τ).run (.fresh τ B H mode) es).receiver.AllDue lTimeNow := by
  have hopened : ((receiverMachine τ).run (.fresh τ B H mode) es).InUse
      fun _ b _ => b.mTimeout + microseconds H ≤ lTimeNow := by
    refine Traced.inUse_run B H mode fun s a f ha hconf _ hs => hs.unpacked ?_ ?_
    · intro _ _ _ _
      show a.amb.clockOpen + s.receiver.bucketTimeout + microseconds H ≤ lTimeNow
      rw [hconf.bucketTimeout]
      exact h a ha
    · intro _ _ _ _ _ hdue
      obtain ⟨-, -, hkept, -⟩ := s.receiver.filledBucket_common f
      rw [hkept]
      exact hdue
  intro e he
  rw [(configured_run B H mode es).holTimeout]
  exact hopened e.2 ((coherent_run B H mode es).entry ((Receiver.mem_toList_iff _ e).mp he)).1

/-- When no bucket is in use, what was opened was handed out or given up. -/
theorem ledger_of_idle
    (hidle : ∀ i, (((receiverMachine τ).run (.fresh τ B H mode) es).receiver.mBucketList
      i).mActive = false) :
    openedCount ((receiverMachine τ).outputs (.fresh τ B H mode) es) =
      handedCount ((receiverMachine τ).outputs (.fresh τ B H mode) es) +
        droppedCount ((receiverMachine τ).outputs (.fresh τ B H mode) es) := by
  have hledger := run_ledger B H mode es
  have hnone : ((receiverMachine τ).run (.fresh τ B H mode) es).receiver.activeCount = 0 := by
    unfold Receiver.activeCount
    rw [Finset.card_eq_zero, Finset.filter_eq_empty_iff]
    exact fun i _ => by simp [hidle i]
  exact hledger.trans (congrArg _ hnone)

variable {e : Event τ} (he : e = .runToCompletionMethod lTimeNow ∨ e = .receiverWorkerPass lTimeNow)

include he

/-- Either engine makes the scan, and selects all there is. -/
private theorem Expired.pass (h : Expired B H es lTimeNow) :
    let before := (receiverMachine τ).run (.fresh τ B H mode) es
    (receiverMachine τ).run (.fresh τ B H mode) (es ++ [e]) = before.concluded lTimeNow ∧
      (before.step e).2.handed =
        before.handOvers lTimeNow (before.receiver.collect before.receiver.mBucketMap.toList) := by
  intro before
  have hdue : before.receiver.AllDue lTimeNow := h.allDue
  have hpass := fun d hd => hdue.pass (coherent_run B H mode es).slotsDistinct (d := d) hd
  rw [← hdue.selected, Machine.run_concat]
  rcases he with rfl | rfl
  · have hd := hpass _ (Or.inl rfl)
    exact ⟨congrArg before.delivered hd,
      congrArg (fun d : Delivered => before.handOvers lTimeNow d.handed) hd⟩
  · have hd := hpass _ (Or.inr rfl)
    exact ⟨congrArg before.delivered hd,
      congrArg (fun d : Delivered => before.handOvers lTimeNow d.handed) hd⟩

/-- No bucket is in use after it. -/
theorem Expired.idle (h : Expired B H es lTimeNow) (i : Slot) :
    (((receiverMachine τ).run (.fresh τ B H mode) (es ++ [e])).receiver.mBucketList i).mActive =
      false := by
  rw [(h.pass he).1]
  exact h.allDue.empties (coherent_run B H mode es) i

/-- **A late pass drains the receiver.** After any packets and passes, with any timeouts and any
    failing allocations, one pass of either engine behind all deadlines hands out every bucket in
    use and leaves none. All that was ever opened was handed out then, or given up in a call that
    said so. -/
theorem late_pass_drains (h : Expired B H es lTimeNow) :
    let before := (receiverMachine τ).run (.fresh τ B H mode) es
    let after := (receiverMachine τ).run (.fresh τ B H mode) (es ++ [e])
    let os := (receiverMachine τ).outputs (.fresh τ B H mode) (es ++ [e])
    (∀ i, (after.receiver.mBucketList i).mActive = false) ∧
    (∀ i, (before.receiver.mBucketList i).mActive = true →
      ∃ x ∈ (before.step e).2.handed, x.slot = i ∧ x.accepted = before.accepted i) ∧
    openedCount os = handedCount os + droppedCount os := by
  intro before after os
  have hcoherent : before.receiver.Coherent := coherent_run B H mode es
  have hidle : ∀ i, (after.receiver.mBucketList i).mActive = false := h.idle he
  refine ⟨hidle, ?_, ?_⟩
  · intro i hactive
    rw [(h.pass he).2]
    obtain ⟨d, hd⟩ := Option.isSome_iff_exists.mp (hcoherent.sound i hactive).data
    have hentry := hcoherent.mem_toList hactive
    have hcollected : { slot := i, frame := (before.receiver.mBucketList i).assemble d } ∈
        before.receiver.collect before.receiver.mBucketMap.toList :=
      List.mem_filterMap.mpr ⟨_, hentry, by simp [hd]⟩
    exact ⟨_, List.mem_map_of_mem hcollected, rfl, rfl⟩
  · exact ledger_of_idle hidle

omit he

/-- A lone fragment whose superframe never becomes complete. -/
theorem late_pass_drains_lone :
    let es : List (Event Unit) := [.receiveFragment loneArrival] ++ [.receiverWorkerPass 150000]
    let os := (receiverMachine Unit).outputs (.fresh Unit 100 50 .THREADED) es
    (((receiverMachine Unit).run (.fresh Unit 100 50 .THREADED) es).receiver.mBucketList
      0).mActive = false ∧ openedCount os = handedCount os + droppedCount os := by
  have hexpired : Expired 100 50 [.receiveFragment loneArrival] 150000 := by
    intro a ha
    obtain rfl := Event.receiveFragment.inj (List.mem_singleton.mp ha)
    decide
  exact ⟨(late_pass_drains (Or.inr rfl) hexpired).1 0,
    (late_pass_drains (Or.inr rfl) hexpired).2.2⟩

end Runs

end ElasticFrame
