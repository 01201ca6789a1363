import ElasticFrame.EndToEnd.Gapless
import ElasticFrame.EndToEnd.Interleaved
import ElasticFrame.Threads.Draining

/-!
# Delivery by the Threads

What `receiveCallback` gets from `deliveryWorker` when the fragments of a channel are given to a
receiver in threaded mode. The threads agree with one sequential receiver (`Linearized`), so
what is true of calls among passes is true of them: the passes are those that `receiverWorker` made
and the calls those that took their place before and after.

A superframe takes three hands on its way: it is selected by a pass, pushed, and delivered. What
was delivered is the beginning of what was pushed, and that the beginning of what was selected.
-/

namespace ElasticFrame.Threads

open ElasticFrame.Lib

section Delivery

variable {T : Transmission} {B H : UInt32} {schedule : List (ThreadedAction (ℕ × ℕ))}

/-- What was delivered is the beginning of what the passes handed over. -/
theorem delivered_begins (B H : UInt32) (schedule : List (ThreadedAction (ℕ × ℕ))) :
    ∃ hs, hs <+: handOvers B H .THREADED (sequential B H schedule) ∧
      ((threadedMachine (ℕ × ℕ)).run (.new (ℕ × ℕ) B H) schedule).handOff.delivered =
        hs.map HandOver.frame := by
  have h := linearized_run B H schedule
  generalize (threadedMachine (ℕ × ℕ)).run (.new (ℕ × ℕ) B H) schedule = s at h ⊢
  have hbegins := List.prefix_iff_eq_take.mp (h.delivered_begins.trans h.pushed_begins)
  refine ⟨(handOvers B H .THREADED (sequential B H schedule)).take s.handOff.delivered.length,
    List.take_prefix _ _, hbegins.trans ?_⟩
  exact (List.map_take ..).symm

/-- What the callback gets from the threads, when these calls and passes took their places. -/
structure DeliveredByThreads (T : Transmission) (B H : UInt32) (es : List (Event (ℕ × ℕ)))
    (hs : List (HandOver (ℕ × ℕ))) : Prop where
  inOrder : hs <+: handOvers B H .THREADED es
  once : (hs.map HandOver.superframe).Nodup
  brought : ∀ x ∈ hs, ∃ a ∈ arrivals es, x.superframe = some a.superframe
  faithful : ∀ x ∈ hs, ∀ k, x.superframe = some k → x.frame.mBroken = false →
    T.Received (arrivals es) k ∧ (T.calls k).DeliveredAs x.frame
  forward : H ≠ 0 → (∀ a ∈ arrivals es, a.superframe < 2 ^ 64 - 1) → OpensAhead B H .THREADED es →
    ∃ ks : List ℕ, hs.map HandOver.superframe = ks.map some ∧ ks.Pairwise (· < ·)

/-- **Delivery by the threads.** However the steps of both threads and of the calls interleave: when
    the calls that took their places are those of a channel, `receiveCallback` gets no superframe
    twice and none of which no fragment came; an unbroken one has come whole and is what was sent;
    and in head-of-line mode they are in ascending order, as long as no call opens a bucket below
    the head. -/
theorem delivered_by_threads (h : Interleaved T B H .THREADED (sequential B H schedule)) :
    ∃ hs, DeliveredByThreads T B H (sequential B H schedule) hs ∧
      ((threadedMachine (ℕ × ℕ)).run (.new (ℕ × ℕ) B H) schedule).handOff.delivered =
        hs.map HandOver.frame := by
  obtain ⟨hs, hbegins, hdelivered⟩ := delivered_begins B H schedule
  have hserving := h.serving
  refine ⟨hs, ⟨hbegins, ?_, ?_, ?_, ?_⟩, hdelivered⟩
  · exact hserving.once.sublist (hbegins.map _).sublist
  · exact fun x hx => hserving.named (hbegins.subset hx)
  · intro x hx k hk hunbroken
    have hx := hbegins.subset hx
    exact ⟨h.received hx hk hunbroken, hserving.content x hx k hk hunbroken⟩
  · intro hhol hindex hahead
    obtain ⟨ks, hks, hkept⟩ := h.headKept hhol hindex hahead
    have hbegins' := hbegins.map HandOver.superframe
    rw [hks] at hbegins'
    have htake := List.prefix_iff_eq_take.mp hbegins'
    rw [← List.map_take] at htake
    exact ⟨_, htake, hkept.increasing.sublist (List.take_sublist _ _)⟩

/-- Two superframes in the wrong order. -/
def twoCalls : List (Event (ℕ × ℕ)) :=
  [.receiveFragment (oneByteArrival 1 1), .receiveFragment (oneByteArrival 0 0)]

private theorem twoCalls_interleaved :
    Interleaved (Transmission.oneByteEach 0) 100 50 .THREADED twoCalls where
  channel := { fresh := rfl, emitted := by decide +kernel, start := by decide, near := by decide
               late := by decide }
  free := by
    intro s a htakes hactive
    simp only [twoCalls, Machine.takes_cons_iff, Machine.not_takes_nil, or_false] at htakes
    rcases htakes with ⟨rfl, h⟩ | ⟨rfl, h⟩
    all_goals cases h
    all_goals exact absurd hactive (by decide +kernel)
  allocates := by decide

/-- The two calls, a pass when the clock says this, and the delivery of what it handed over. -/
def twoCallsSchedule (now : ℤ) : List (ThreadedAction (ℕ × ℕ)) :=
  (.receiveFragment (oneByteArrival 1 1) :: List.replicate 5 .call) ++
    (.receiveFragment (oneByteArrival 0 0) :: List.replicate 5 .call) ++
    List.replicate 24 (.receiverWorker now) ++ List.replicate 14 (.deliveryWorker false)

set_option maxRecDepth 4000 in
private theorem twoCallsSchedule_sequential :
    sequential 100 50 (twoCallsSchedule 200000) = twoCalls ++ [.receiverWorkerPass 210000] := rfl

/-- The two calls come through the threads. -/
theorem delivered_by_threads_two :
    ∃ hs, DeliveredByThreads (Transmission.oneByteEach 0) 100 50
        (sequential 100 50 (twoCallsSchedule 200000)) hs ∧
      ((threadedMachine (ℕ × ℕ)).run (.new (ℕ × ℕ) 100 50)
        (twoCallsSchedule 200000)).handOff.delivered = hs.map HandOver.frame := by
  apply delivered_by_threads
  rw [twoCallsSchedule_sequential]
  exact (twoCalls_interleaved.pass (Or.inr rfl)).1

/-- **The threads strand nothing.** When `receiverWorker` has made a pass behind all deadlines and
    has pushed what it selected, and `deliveryWorker` has delivered what was pushed: the callback
    got every superframe of which a fragment came, once, and no other. -/
theorem delivered_once_by_threads {es : List (Event (ℕ × ℕ))} {lTimeNow : ℤ}
    (h : Interleaved T B H .THREADED es) (hexpired : Expired B H es lTimeNow)
    (hlast : sequential B H schedule = es ++ [.receiverWorkerPass lTimeNow])
    (hpassed : ((threadedMachine (ℕ × ℕ)).run (.new (ℕ × ℕ) B H) schedule).mNetMtx ≠
      some .receiverWorker)
    (hemptied : ((threadedMachine (ℕ × ℕ)).run (.new (ℕ × ℕ) B H) schedule).handOff.delivered =
      ((threadedMachine (ℕ × ℕ)).run (.new (ℕ × ℕ) B H) schedule).handOff.pushed) :
    let hs := handOvers B H .THREADED (es ++ [.receiverWorkerPass lTimeNow])
    ((threadedMachine (ℕ × ℕ)).run (.new (ℕ × ℕ) B H) schedule).handOff.delivered =
        hs.map HandOver.frame ∧
      ∀ k, k + 1 < 2 ^ 64 → (hs.map HandOver.superframe).count (some k) =
        if ∃ a ∈ arrivals es, a.superframe = k then 1 else 0 := by
  intro hs
  obtain ⟨hpass, hnone⟩ := h.pass (Or.inr rfl)
  have hpushed := (linearized_run B H schedule).pushed_eq hpassed
  rw [hlast] at hpushed
  refine ⟨hemptied.trans hpushed, fun k hlt => ?_⟩
  rw [← hnone]
  exact hpass.serving.count (hexpired.idle (Or.inr rfl)) hlt

/-- The two calls are delivered, once each. -/
theorem delivered_once_by_threads_two :
    ((handOvers 100 50 .THREADED (twoCalls ++ [.receiverWorkerPass 210000])).map
      HandOver.superframe).count (some 0) =
        if ∃ a ∈ arrivals twoCalls, a.superframe = 0 then 1 else 0 := by
  have hexpired : Expired 100 50 twoCalls 210000 := by
    intro a ha
    simp only [twoCalls, List.mem_cons, Event.receiveFragment.injEq, List.not_mem_nil,
      or_false] at ha
    rcases ha with rfl | rfl <;> decide
  have hemptied := (linearized_run 100 50 (twoCallsSchedule 200000)).delivered_begins.eq_of_length
    (by decide +kernel)
  exact (delivered_once_by_threads twoCalls_interleaved hexpired twoCallsSchedule_sequential
    (by decide +kernel) hemptied).2 0 (by decide)

/-- More passes make no difference to the calls. -/
theorem Interleaved.passes {es ps : List (Event (ℕ × ℕ))} (h : Interleaved T B H .THREADED es)
    (hps : Passes ps) :
    Interleaved T B H .THREADED (es ++ ps) ∧ arrivals (es ++ ps) = arrivals es := by
  induction ps using List.reverseRecOn with
  | nil => exact ⟨(List.append_nil es).symm ▸ h, congrArg arrivals (List.append_nil es)⟩
  | append_singleton ps e ih =>
    obtain ⟨hbefore, hsame⟩ := ih fun e he => hps e (List.mem_append_left _ he)
    obtain ⟨lTimeNow, rfl⟩ := hps e (List.mem_append_right _ (List.mem_singleton_self e))
    obtain ⟨hnext, hnone⟩ := hbefore.pass (Or.inr rfl)
    rw [← List.append_assoc]
    exact ⟨hnext, hnone.trans hsame⟩

/-- **Everything that came is delivered in the end.** From every state of every run in which no call
    is under way and nobody has stopped the receiver: when it is left alone behind all deadlines
    and every thread has its turn again and again, the callback gets every superframe of which a
    fragment came, once, and no other; and the unbroken ones are what was sent. -/
theorem delivered_in_the_end (h : Interleaved T B H .THREADED (sequential B H schedule)) {t : ℤ}
    (houtside : ((threadedMachine (ℕ × ℕ)).run (.new (ℕ × ℕ) B H) schedule).call = .outside)
    (hactive :
      ((threadedMachine (ℕ × ℕ)).run (.new (ℕ × ℕ) B H) schedule).handOff.mThreadActive = true)
    (hexpired : Expired B H (sequential B H schedule) t) {later : ℕ → ThreadedAction (ℕ × ℕ)}
    (hundisturbed : ∀ n, Undisturbed t (later n))
    (hfair : Machine.Fair ThreadedAction.turn later) :
    ∃ (n : ℕ) (hs : List (HandOver (ℕ × ℕ))),
      ((threadedMachine (ℕ × ℕ)).after ((threadedMachine (ℕ × ℕ)).run
        (.new (ℕ × ℕ) B H) schedule) later n).handOff.delivered = hs.map HandOver.frame ∧
      (∀ k, k + 1 < 2 ^ 64 → (hs.map HandOver.superframe).count (some k) =
        if ∃ a ∈ arrivals (sequential B H schedule), a.superframe = k then 1 else 0) ∧
      ∀ x ∈ hs, ∀ k, x.superframe = some k → x.frame.mBroken = false →
        T.Received (arrivals (sequential B H schedule)) k ∧ (T.calls k).DeliveredAs x.frame := by
  obtain ⟨n, hemptied, hdelivered⟩ :=
    (leftAlone_run houtside hactive hexpired).drains hundisturbed hfair
  obtain ⟨ps, hps, hidle, -, hframes⟩ := hemptied.delivers hdelivered
  obtain ⟨hinterleaved, hsame⟩ := Interleaved.passes h hps
  have hserving := hinterleaved.serving
  refine ⟨n, handOvers B H .THREADED (sequential B H schedule ++ ps), hframes, ?_, ?_⟩
  · intro k hlt
    rw [← hsame]
    exact hserving.count hidle hlt
  · intro x hx k hk hunbroken
    rw [← hsame]
    exact ⟨hinterleaved.received hx hk hunbroken, hserving.content x hx k hk hunbroken⟩

/-- The two calls, and no pass yet. -/
theorem delivered_in_the_end_two :
    ∃ (n : ℕ) (hs : List (HandOver (ℕ × ℕ))),
      ((threadedMachine (ℕ × ℕ)).after ((threadedMachine (ℕ × ℕ)).run (.new (ℕ × ℕ) 100 50)
        ((.receiveFragment (oneByteArrival 1 1) :: List.replicate 5 .call) ++
          (.receiveFragment (oneByteArrival 0 0) :: List.replicate 5 .call)))
            (roundRobin (ℕ × ℕ) 210000) n).handOff.delivered = hs.map HandOver.frame ∧
      (hs.map HandOver.superframe).count (some 0) = 1 := by
  have hsequential : sequential 100 50
      ((.receiveFragment (oneByteArrival 1 1) :: List.replicate 5 .call) ++
        (.receiveFragment (oneByteArrival 0 0) :: List.replicate 5 .call)) = twoCalls := rfl
  have hexpired : Expired 100 50 twoCalls 210000 := by
    intro a ha
    simp only [twoCalls, List.mem_cons, Event.receiveFragment.injEq, List.not_mem_nil,
      or_false] at ha
    rcases ha with rfl | rfl <;> decide
  obtain ⟨n, hs, hdelivered, hcount, -⟩ := delivered_in_the_end (hsequential ▸ twoCalls_interleaved)
    rfl rfl (hsequential ▸ hexpired) (undisturbed_roundRobin 210000) (roundRobin_fair 210000)
  refine ⟨n, hs, hdelivered, ?_⟩
  rw [hcount 0 (by decide), hsequential]
  decide

/-- **The threads deliver without gaps.** In head-of-line mode, however the steps interleave: as
    long as no pass finds a deadline passed, `receiveCallback` gets superframes one after the other
    without a gap, each unbroken and as it was sent. -/
theorem gapless_by_threads (hhol : H ≠ 0)
    (h : Interleaved T B H .THREADED (sequential B H schedule))
    (hindex : ∀ a ∈ arrivals (sequential B H schedule), a.superframe < 2 ^ 64 - 1)
    (hquiet : QuietPasses B H .THREADED (sequential B H schedule)) :
    ∃ (first count : ℕ) (hs : List (HandOver (ℕ × ℕ))),
      ((threadedMachine (ℕ × ℕ)).run (.new (ℕ × ℕ) B H) schedule).handOff.delivered =
        hs.map HandOver.frame ∧
      hs.map HandOver.superframe = (List.range' first count).map some ∧
      ∀ x ∈ hs, x.frame.mBroken = false ∧
        ∀ k, x.superframe = some k → (T.calls k).DeliveredAs x.frame := by
  obtain ⟨hs, hbegins, hdelivered⟩ := delivered_begins B H schedule
  obtain ⟨first, count, hrow⟩ := h.inARow hhol hindex hquiet
  have hbegins' := hbegins.map HandOver.superframe
  rw [hrow.order] at hbegins'
  have htake := List.prefix_iff_eq_take.mp hbegins'
  have hlength := hbegins'.length_le
  simp only [List.length_map, List.length_range'] at hlength
  rw [← List.map_take, List.length_map, List.take_range'_of_length_ge hlength] at htake
  refine ⟨first, _, hs, hdelivered, htake, fun x hx => ?_⟩
  have hx := hbegins.subset hx
  exact ⟨hrow.unbroken x hx, fun k hk => h.serving.content x hx k hk (hrow.unbroken x hx)⟩

set_option maxRecDepth 4000 in
private theorem twoCallsSchedule_early :
    sequential 100 50 (twoCallsSchedule 20000) = twoCalls ++ [.receiverWorkerPass 30000] := rfl

/-- The two calls, and a pass before their deadlines. -/
theorem gapless_by_threads_two :
    ∃ (first count : ℕ) (hs : List (HandOver (ℕ × ℕ))),
      ((threadedMachine (ℕ × ℕ)).run (.new (ℕ × ℕ) 100 50)
        (twoCallsSchedule 20000)).handOff.delivered = hs.map HandOver.frame ∧
      hs.map HandOver.superframe = (List.range' first count).map some := by
  have hquiet : QuietPasses 100 50 .THREADED (twoCalls ++ [.receiverWorkerPass 30000]) := by
    apply quietPasses_of_short (t := 0)
    · intro a ha
      simp only [twoCalls, List.cons_append, List.nil_append, List.mem_cons,
        Event.receiveFragment.injEq, List.not_mem_nil, or_false, reduceCtorEq] at ha
      rcases ha with rfl | rfl <;> decide
    · intro e he lTimeNow hmakes
      have hwhole : microseconds 100 + microseconds 50 = 150000 := by decide
      simp only [twoCalls, List.cons_append, List.nil_append, List.mem_cons, List.not_mem_nil,
        or_false] at he
      rcases he with rfl | rfl | rfl <;> cases hmakes
      all_goals first
        | omega
        | exact absurd ‹EFPReceiverMode.THREADED = _› (by decide)
  have hsequential := twoCallsSchedule_early
  obtain ⟨first, count, hs, hdelivered, horder, -⟩ := gapless_by_threads (by decide)
    (hsequential ▸ (twoCalls_interleaved.pass (Or.inr rfl)).1) (by rw [hsequential]; decide)
    (hsequential ▸ hquiet)
  exact ⟨first, count, hs, hdelivered, horder⟩

end Delivery

end ElasticFrame.Threads
