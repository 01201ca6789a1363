import ElasticFrame.Threads.Linearization
import Mathlib.Data.List.Chain

/-!
# The Pace of the Passes

`receiverWorker` makes a pass every `WORKER_THREAD_SLEEP_US`, and takes for `lTimeNow` the moment at
which its sleep should end, not the clock. Two passes are a period apart at least, whatever the
clock says and however long a thread is kept waiting. That a pass does not act on a time that is
still to come takes a clock that has reached the end of the last sleep when it is read again.
-/

namespace ElasticFrame.Threads

open ElasticFrame.Lib

variable {τ : Type}

/-! ## §1 The distance of two passes -/

/-- The worker has read the clock for a pass that it has not begun. -/
def WorkerAt.hasRead : WorkerAt → Bool
  | .lockNet | .emptyTest => true
  | _ => false

/-- The passes so far are a period apart, and so is the next one. -/
structure Paced (es : List (Event τ)) (s : ThreadedReceiver τ) : Prop where
  apart : (passTimes es).IsChain fun t t' => t + WORKER_THREAD_SLEEP_US ≤ t'
  fresh : s.receiverWorker = .begin → passTimes es = []
  reference : s.receiverWorker.hasRead = true → s.clock.lTimeReference = s.clock.lTimeNow
  last : ∀ t ∈ (passTimes es).getLast?, t ≤ s.clock.lTimeReference
  next : s.receiverWorker.hasRead = true →
    ∀ t ∈ (passTimes es).getLast?, t + WORKER_THREAD_SLEEP_US ≤ s.clock.lTimeNow

namespace Paced

variable {es : List (Event τ)} {s s' : ThreadedReceiver τ}

/-- A step that is no pass and does not read the clock. -/
private theorem silent (h : Paced es s) {more : List (Event τ)} (hnone : passTimes more = [])
    (hclock : s'.clock = s.clock) (hbegin : s'.receiverWorker = .begin → s.receiverWorker = .begin)
    (hread : s'.receiverWorker.hasRead = true → s.receiverWorker.hasRead = true) :
    Paced (es ++ more) s' := by
  have hsame : passTimes (es ++ more) = passTimes es := by
    rw [passTimes_append, hnone, List.append_nil]
  refine ⟨?_, ?_, ?_, ?_, ?_⟩
  · rw [hsame]
    exact h.apart
  · rw [hsame]
    exact fun hat => h.fresh (hbegin hat)
  · rw [hclock]
    exact fun hat => h.reference (hread hat)
  · rw [hsame, hclock]
    exact h.last
  · rw [hsame, hclock]
    exact fun hat => h.next (hread hat)

/-- The pass for which the clock was read. -/
private theorem pass (h : Paced es s) (hat : s.receiverWorker = .emptyTest) {next : WorkerAt}
    (hbegin : next ≠ .begin) (hread : next.hasRead = false) :
    Paced (es ++ [.receiverWorkerPass s.clock.lTimeNow]) { s with receiverWorker := next } := by
  have hhere : s.receiverWorker.hasRead = true := by
    rw [hat]
    rfl
  have htimes : passTimes (es ++ [.receiverWorkerPass s.clock.lTimeNow]) =
      passTimes es ++ [s.clock.lTimeNow] := by
    rw [passTimes_append]
    rfl
  refine ⟨?_, fun hat' => absurd hat' hbegin, ?_, ?_, ?_⟩
  · rw [htimes]
    refine List.isChain_append.mpr ⟨h.apart, .singleton _, fun t ht t' ht' => ?_⟩
    obtain rfl := Option.some.inj ht'
    exact h.next hhere t ht
  · exact fun hnext => absurd (hread.symm.trans hnext) (by simp)
  · intro t ht
    rw [htimes, List.getLast?_concat] at ht
    obtain rfl := Option.some.inj ht
    exact (h.reference hhere).ge
  · exact fun hnext => absurd (hread.symm.trans hnext) (by simp)

/-- **A step of `receiverWorker` keeps the pace.** -/
private theorem workerStep (h : Paced es s) {now : ℤ} (hstep : s.WorkerStep now s') :
    Paced (es ++ s.answer (.receiverWorker now)) s' := by
  have hnone : s.receiverWorker ≠ .emptyTest → s.answer (.receiverWorker now) = [] := by
    intro hat
    unfold ThreadedReceiver.answer
    cases hworker : s.receiverWorker <;> simp_all
  cases hstep with
  | begins hat =>
    have hfresh := h.fresh hat
    rw [hnone (by simp [hat]), List.append_nil]
    exact
      { apart := h.apart
        fresh := fun hbegin => absurd hbegin (by simp)
        reference := fun hread => absurd hread (by simp [WorkerAt.hasRead])
        last := fun t ht => absurd ht (by simp [hfresh])
        next := fun hread => absurd hread (by simp [WorkerAt.hasRead]) }
  | sleeps hat =>
    have hnow := s.clock.tick_now now
    have hreference := s.clock.tick_reference now
    rw [hnone (by simp [hat]), List.append_nil]
    -- the reference moves on by a period at least
    have hnext : ∀ t ∈ (passTimes es).getLast?,
        t + WORKER_THREAD_SLEEP_US ≤ (s.clock.tick now).lTimeNow := by
      intro t ht
      have hlast := h.last t ht
      rw [hnow]
      exact le_max_of_le_left (by omega)
    exact
      { apart := h.apart
        fresh := fun hbegin => absurd hbegin (by simp)
        reference := fun _ => hreference
        last := fun t ht => by
          have hle := hnext t ht
          show t ≤ (s.clock.tick now).lTimeReference
          rw [hreference]
          unfold WORKER_THREAD_SLEEP_US at hle
          omega
        next := fun _ => hnext }
  | skips hat hempty =>
    rw [ThreadedReceiver.answer_emptyTest hat]
    exact h.pass hat (by simp) rfl
  | starts hat hsome =>
    rw [ThreadedReceiver.answer_emptyTest hat]
    exact h.pass hat (by simp) rfl
  | _ =>
    rw [hnone (by simp [*])]
    exact h.silent rfl rfl (by simp [*]) (by simp [*, WorkerAt.hasRead])

/-- **Step lemma.** -/
theorem step (h : Paced es s) (action : ThreadedAction τ) :
    Paced (es ++ s.answer action) (s.step action) := by
  have hstep := s.step_cases action
  generalize s.step action = s' at hstep ⊢
  cases hstep with
  | begins action hcall c hc hat =>
    rw [s.answer_of_isCall hcall]
    exact h.silent rfl rfl id id
  | busy action hcall hat =>
    rw [s.answer_of_isCall hcall]
    exact h.silent rfl rfl id id
  | call s' hstep =>
    cases hstep <;> exact h.silent s.answer_call rfl id id
  | receiverWorker now s' hstep => exact h.workerStep hstep
  | deliveryWorker spuriously s' hstep => cases hstep <;> exact h.silent rfl rfl id id

end Paced

/-- **Run lemma.** -/
theorem paced_run (B H : UInt32) (schedule : List (ThreadedAction τ)) :
    Paced (sequential B H schedule) ((threadedMachine τ).run (.new τ B H) schedule) :=
  Machine.Simulation.run (R := Paced (τ := τ))
    ⟨⟨.nil, fun _ => rfl, fun hread => Bool.noConfusion hread, nofun, nofun⟩,
      fun _ _ i h => h.step i⟩ schedule

/-! ## §2 The length of a sleep -/

/-- The clock that a sleeping worker reads next has reached the end of its sleep: what `sleep_for`
    and a steady clock promise. -/
def SleepsOut (B H : UInt32) (schedule : List (ThreadedAction τ)) : Prop :=
  ∀ (s : ThreadedReceiver τ) (now : ℤ),
    (threadedMachine τ).Takes (.new τ B H) schedule s (.receiverWorker now) →
    s.receiverWorker = .readClock → s.clock.lTimeReference ≤ now

/-- A pass is planned within a period of the clock. -/
def WorkerClock.Timely (c : WorkerClock) : Prop :=
  c.lTimeSample ≤ c.lTimeNow ∧ c.lTimeNow ≤ c.lTimeSample + WORKER_THREAD_SLEEP_US

theorem WorkerClock.tick_timely (c : WorkerClock) {now : ℤ} (h : c.lTimeReference ≤ now) :
    (c.tick now).Timely := by
  have hsample : (c.tick now).lTimeSample = now := by
    unfold tick
    simp only []
    split
    · rfl
    · rfl
  have hnow := c.tick_now now
  unfold Timely
  rw [hsample, hnow]
  unfold WORKER_THREAD_SLEEP_US
  omega

/-- **Step lemma**: between the clock and the pass nothing sets the clock. -/
private theorem timely_step (s : ThreadedReceiver τ) (action : ThreadedAction τ)
    (hsleep : ∀ now, action = .receiverWorker now → s.receiverWorker = .readClock →
      s.clock.lTimeReference ≤ now)
    (h : s.receiverWorker.hasRead = true → s.clock.Timely) :
    (s.step action).receiverWorker.hasRead = true → (s.step action).clock.Timely := by
  have hstep := s.step_cases action
  generalize s.step action = s' at hstep ⊢
  cases hstep with
  | begins action hcall c hc hat => exact h
  | busy action hcall hat => exact h
  | call s' hstep => cases hstep <;> exact h
  | deliveryWorker spuriously s' hstep => cases hstep <;> exact h
  | receiverWorker now s' hstep =>
    cases hstep with
    | sleeps hat => exact fun _ => s.clock.tick_timely (hsleep now rfl hat)
    | locks hat hfree => exact fun _ => h (by rw [hat]; rfl)
    | waits hat hheld => exact h
    | isOver hat => exact h
    | _ => exact fun hread => absurd hread (by simp [WorkerAt.hasRead])

/-! ## §3 Every interleaving -/

/-- **The passes are paced.** Two passes in a row act on times a period apart, whatever the clock
    says, however long the worker waits for `mNetMtx` and whatever the calls do in between: a worker
    that comes late skips what it missed and does not catch up. If its sleeps are as long as they
    should be, none is longer than a period, and a pass never acts on a time before the clock was
    read for it. -/
theorem passes_paced (B H : UInt32) (schedule : List (ThreadedAction τ)) :
    ((passTimes (sequential B H schedule)).IsChain fun t t' => t + WORKER_THREAD_SLEEP_US ≤ t') ∧
    (SleepsOut B H schedule →
      let s := (threadedMachine τ).run (.new τ B H) schedule
      s.receiverWorker.hasRead = true → s.clock.Timely) := by
  refine ⟨(paced_run B H schedule).apart, fun hsleeps => ?_⟩
  exact (threadedMachine τ).run_invariant
    (I := fun s => s.receiverWorker.hasRead = true → s.clock.Timely)
    (C := fun s action => ∀ now, action = .receiverWorker now → s.receiverWorker = .readClock →
      s.clock.lTimeReference ≤ now)
    (fun hread => Bool.noConfusion hread) (fun s action hc h => timely_step s action hc h)
    fun s action htakes now heq hat => hsleeps s now (heq ▸ htakes) hat

theorem passes_paced_twice :
    let schedule : List (ThreadedAction Unit) :=
      [0, 0, 3, 0, 0, 0, 0, 11000].map ThreadedAction.receiverWorker
    (passTimes (sequential 50 50 schedule)).IsChain (fun t t' => t + WORKER_THREAD_SLEEP_US ≤ t') ∧
      ((threadedMachine Unit).run (.new Unit 50 50) schedule).clock.Timely := by
  intro schedule
  refine ⟨(passes_paced 50 50 schedule).1, (passes_paced 50 50 schedule).2 ?_ rfl⟩
  intro s now htakes hat
  -- the clock is read at 3, after the begin at 0, and at 11000, after a sleep to 10000
  simp only [schedule, List.map, Machine.takes_cons_iff, Machine.not_takes_nil, or_false] at htakes
  rcases htakes with ⟨rfl, h⟩ | ⟨rfl, h⟩ | ⟨rfl, h⟩ | ⟨rfl, h⟩ | ⟨rfl, h⟩ | ⟨rfl, h⟩ | ⟨rfl, h⟩ |
    ⟨rfl, h⟩
  all_goals
    obtain rfl := ThreadedAction.receiverWorker.inj h
    first
    | decide
    | exact absurd hat nofun

end ElasticFrame.Threads
