import ElasticFrame.Receiver.Store
import Mathlib.Tactic.NormNum

/-!
# Deadlines

A superframe that is handed out broken was given up: its bucket was opened at `t0`, and the
deadline that the receiver computed from `t0` and its two timeouts had passed. The sums are
64-bit, but the two products of milliseconds and 1000 are 32-bit.

- `handed_broken_deadline`: what the code guarantees, with the wrapped products
- `givesUpInTime_iff`: the deadline is the one of exact arithmetic exactly when neither product
  wraps
-/

namespace ElasticFrame

open ElasticFrame.Lib

/-! ## §1 The computed deadline -/

/-- `1000 * ms` as a `uint32_t`. -/
def microseconds (ms : UInt32) : ℤ := (ms * 1000).toNat

theorem microseconds_eq {ms : UInt32} (h : ms.toNat ≤ 4294967) :
    microseconds ms = 1000 * ms.toNat := by
  have hmul : (ms * 1000).toNat = ms.toNat * 1000 := by
    rw [UInt32.toNat_mul]
    exact Nat.mod_eq_of_lt (by show ms.toNat * 1000 < 2 ^ 32; omega)
  rw [microseconds, hmul]
  push_cast
  ring

/-- A product that does not fit loses a multiple of `2 ^ 32`. -/
theorem microseconds_lt {ms : UInt32} (h : 4294967 < ms.toNat) :
    microseconds ms + 4294967296 ≤ 1000 * ms.toNat := by
  have hmul : (ms * 1000).toNat = ms.toNat * 1000 % 2 ^ 32 := UInt32.toNat_mul ms 1000
  rw [microseconds, hmul]
  omega

theorem microseconds_le (ms : UInt32) : microseconds ms ≤ 1000 * ms.toNat := by
  by_cases h : ms.toNat ≤ 4294967
  · exact (microseconds_eq h).le
  · have := microseconds_lt (not_le.mp h)
    omega

theorem microseconds_nonneg (ms : UInt32) : 0 ≤ microseconds ms := Int.natCast_nonneg _

section Deadline

variable {τ : Type} (B H : UInt32) (mode : EFPReceiverMode)

theorem Receiver.Configured.bucketTimeout {B H : UInt32} {mode : EFPReceiverMode} {r : Receiver}
    (h : r.Configured B H mode) : r.bucketTimeout = microseconds B := by
  rw [Receiver.bucketTimeout, h.bucketTimeoutms]
  rfl

theorem Receiver.Configured.holTimeout {B H : UInt32} {mode : EFPReceiverMode} {r : Receiver}
    (h : r.Configured B H mode) : r.holTimeout = microseconds H := by
  rw [Receiver.holTimeout, h.holTimeoutms]
  rfl

/-- The deadline of a bucket counts from the call that opened it. -/
def OpenedAt (_ : Slot) (b : Bucket) (accepted : List (Arrival τ)) : Prop :=
  ∃ a, accepted.head? = some a ∧ b.mTimeout = a.amb.clockOpen + microseconds B

/-- **Buckets remember when they were opened.** -/
theorem openedAt_unpacked {s : Traced τ} (hconf : s.receiver.Configured B H mode)
    (h : s.InUse (OpenedAt B)) (a : Arrival τ) (f : Fragment) :
    (s.unpacked a f).InUse (OpenedAt B) := by
  apply h.unpacked
  · intro _ _ _ _
    -- the opening reads the clock and adds the bucket timeout
    refine ⟨a, rfl, ?_⟩
    show a.amb.clockOpen + s.receiver.bucketTimeout = _
    rw [hconf.bucketTimeout]
  · rintro - - - - - ⟨a₀, hhead, htimeout⟩
    obtain ⟨-, -, hkept, -⟩ := s.receiver.filledBucket_common f
    refine ⟨a₀, ?_, hkept.trans htimeout⟩
    rw [List.head?_append, hhead]
    rfl

theorem openedAt_run (es : List (Event τ)) :
    ((receiverMachine τ).run (Traced.fresh τ B H mode) es).InUse (OpenedAt B) :=
  Traced.inUse_run B H mode fun _ a f _ hconf _ h => openedAt_unpacked B H mode hconf h a f

/-- The bucket was not opened before this time. -/
def OpenedSince (t₀ : ℤ) (_ : Slot) (b : Bucket) (_ : List (Arrival τ)) : Prop :=
  t₀ + microseconds B ≤ b.mTimeout

theorem openedSince_unpacked {t₀ : ℤ} {s : Traced τ} (hconf : s.receiver.Configured B H mode)
    (h : s.InUse (OpenedSince B t₀)) {a : Arrival τ} (ha : t₀ ≤ a.amb.clockOpen) (f : Fragment) :
    (s.unpacked a f).InUse (OpenedSince B t₀) := by
  apply h.unpacked
  · intro _ _ _ _
    show t₀ + microseconds B ≤ a.amb.clockOpen + s.receiver.bucketTimeout
    rw [hconf.bucketTimeout]
    exact Int.add_le_add_right ha _
  · rintro - - - - - hsince
    obtain ⟨-, -, hkept, -⟩ := s.receiver.filledBucket_common f
    exact hsince.trans hkept.ge

theorem openedSince_run {t₀ : ℤ} {es : List (Event τ)}
    (hopen : ∀ a, .receiveFragment a ∈ es → t₀ ≤ a.amb.clockOpen) :
    ((receiverMachine τ).run (Traced.fresh τ B H mode) es).InUse (OpenedSince B t₀) :=
  Traced.inUse_run B H mode fun _ a f ha hconf _ h =>
    openedSince_unpacked B H mode hconf h (hopen a ha) f

/-- **What the code guarantees**: a superframe handed out broken waited for the deadline that the
    code computed. -/
theorem handed_broken_deadline {es : List (Event τ)} {o : Report τ}
    (ho : o ∈ (receiverMachine τ).outputs (Traced.fresh τ B H mode) es) {x : HandOver τ}
    (hx : x ∈ o.handed) (hbroken : x.frame.mBroken = true) :
    ∃ a, x.accepted.head? = some a ∧
      a.amb.clockOpen + microseconds B + microseconds H ≤ x.lTimeNow := by
  obtain ⟨s, e, ⟨pre, post, -, rfl⟩, rfl⟩ := (receiverMachine τ).mem_outputs_iff.mp ho
  have hconf := configured_run B H mode pre
  have hopened := openedAt_run B H mode pre
  obtain ⟨b, d, ⟨a, hhead, htimeout⟩, -, hframe, hdue⟩ :=
    Traced.step_handed_inUse (coherent_run B H mode pre) hopened
      (fun a f _ _ => openedAt_unpacked B H mode hconf hopened a f) hx
  refine ⟨a, hhead, ?_⟩
  rw [hconf.holTimeout, htimeout] at hdue
  rcases hdue with hcomplete | hdue
  · -- a complete bucket is not broken
    rw [hframe] at hbroken
    simp only [Bucket.assemble, decide_eq_true_eq] at hbroken
    simp only [Bucket.complete, decide_eq_true_eq] at hcomplete
    exact absurd hcomplete hbroken
  · exact hdue

end Deadline

/-! ## §2 A lone fragment -/

/-- The first of two fragments, with one byte of data. The second one never comes. -/
def loneArrival : Arrival Unit where
  label := ()
  pSubPacket := [1, 1, 0, 0, 0, 0, 1, 0, 7]
  lFromSource := 0
  amb := { clockOpen := 0, clockPass := 0 }

/-- The fragment arrives at time 0; then the worker looks at the buckets. -/
def loneRun (lTimeNow : ℤ) : List (Event Unit) :=
  [.receiveFragment loneArrival, .receiverWorkerPass lTimeNow]

/-- The state in between. -/
def loneState (B H : UInt32) : Traced Unit :=
  (receiverMachine Unit).run (Traced.fresh Unit B H .THREADED) [.receiveFragment loneArrival]

private theorem lone_entries (B H : UInt32) :
    (loneState B H).receiver.mBucketMap.toList = [(0, 0)] := by
  have hmap : (loneState B H).receiver.mBucketMap = (∅ : BucketMap).insert 0 0 := rfl
  rw [hmap]
  decide +kernel

private theorem lone_timeout (B H : UInt32) :
    ((loneState B H).receiver.mBucketList 0).mTimeout = microseconds B :=
  Int.zero_add (microseconds B)

/-- The computed deadline of the lone fragment selects its bucket. -/
private theorem lone_selected (B H : UInt32) :
    ((loneState B H).receiver.scan (microseconds B + microseconds H)).selected = [(0, 0)] := by
  have hentries := lone_entries B H
  have htimeout := lone_timeout B H
  have hhol : (loneState B H).receiver.holTimeout = microseconds H := rfl
  have hlate : ((loneState B H).receiver.mBucketList 0).mTimeout ≤
      microseconds B + microseconds H := by
    have := microseconds_nonneg H
    omega
  have hincomplete : ((loneState B H).receiver.mBucketList 0).complete = false := rfl
  unfold Receiver.scan
  rw [hentries]
  split
  · -- the head jumps over the bucket
    show (Receiver.headScan _ _ [(0, 0)] _).1 = _
    rw [Receiver.headScan_jump _ _ _ (by simp [hincomplete]) (by rw [htimeout, hhol])]
    rfl
  · simp [Receiver.due, hlate]

/-- **The lone fragment is handed out broken at its computed deadline.** -/
theorem lone_handed (B H : UInt32) :
    ∃ o ∈ (receiverMachine Unit).outputs (Traced.fresh Unit B H .THREADED)
        (loneRun (microseconds B + microseconds H)),
      ∃ x ∈ o.handed, x.frame.mBroken = true ∧ x.accepted.head? = some loneArrival ∧
        x.lTimeNow = microseconds B + microseconds H := by
  have hcoherent : (loneState B H).receiver.Coherent := coherent_run B H .THREADED _
  have hselected := lone_selected B H
  have hgo : ¬ (loneState B H).receiver.awaitsFirstRun (microseconds B + microseconds H) := by
    rintro ⟨-, -, hquiet⟩
    apply hquiet
    -- the bucket has timed out, which is enough for a first run
    right
    rw [lone_entries B H]
    have := microseconds_nonneg H
    simp only [List.any_cons, List.any_nil, Bool.or_false, decide_eq_true_eq, lone_timeout]
    omega
  refine ⟨_, List.mem_cons_of_mem _ List.mem_cons_self, ?_⟩
  show ∃ x ∈ (loneState B H).handOvers _ ((loneState B H).receiver.receiverWorkerPass _).handed, _
  rw [Receiver.receiverWorkerPass_eq _ hcoherent.slotsDistinct, if_neg hgo]
  unfold Receiver.conclude
  rw [hselected]
  exact ⟨_, List.mem_cons_self, rfl, rfl, rfl⟩

/-! ## §3 When the deadline is the exact one -/

/-- The clock readings of an event, in order. -/
def Event.clock {τ : Type} : Event τ → List ℤ
  | .receiveFragment a => [a.amb.clockOpen, a.amb.clockPass]
  | .runToCompletionMethod lTimeNow => [lTimeNow]
  | .receiverWorkerPass lTimeNow => [lTimeNow]

/-- The clock never goes back. -/
def Chronological {τ : Type} (es : List (Event τ)) : Prop :=
  (es.flatMap Event.clock).Pairwise (· ≤ ·)

instance {τ : Type} (es : List (Event τ)) : Decidable (Chronological es) :=
  inferInstanceAs (Decidable (List.Pairwise _ _))

/-- In every run of a receiver with these timeouts, no superframe is handed out broken before
    `t0 + 1000 * B + 1000 * H`, where `t0` is the time at which its bucket was opened. -/
def GivesUpInTime (B H : UInt32) : Prop :=
  ∀ (mode : EFPReceiverMode) (es : List (Event Unit)), Chronological es →
    ∀ o ∈ (receiverMachine Unit).outputs (Traced.fresh Unit B H mode) es, ∀ x ∈ o.handed,
      x.frame.mBroken = true →
        ∃ a, x.accepted.head? = some a ∧
          a.amb.clockOpen + 1000 * B.toNat + 1000 * H.toNat ≤ x.lTimeNow

/-- **No superframe is given up early exactly when neither timeout exceeds 4294967 ms.** -/
theorem givesUpInTime_iff (B H : UInt32) :
    GivesUpInTime B H ↔ B.toNat ≤ 4294967 ∧ H.toNat ≤ 4294967 := by
  constructor
  · intro h
    -- a lone fragment is given up at the computed deadline, which must not be early
    obtain ⟨o, ho, x, hx, hbroken, hhead, htime⟩ := lone_handed B H
    have hB := microseconds_nonneg B
    have hH := microseconds_nonneg H
    have hchron : Chronological (loneRun (microseconds B + microseconds H)) := by
      simp only [Chronological, loneRun, Event.clock, loneArrival, List.flatMap_cons,
        List.flatMap_nil, List.cons_append, List.nil_append, List.append_nil,
        List.pairwise_cons, List.mem_cons, List.not_mem_nil, or_false]
      refine ⟨?_, ?_, by simp⟩
      · rintro t (rfl | rfl) <;> omega
      · rintro t rfl
        omega
    obtain ⟨a, ha, hle⟩ := h .THREADED _ hchron o ho x hx hbroken
    rw [hhead] at ha
    obtain rfl := Option.some.inj ha
    rw [htime] at hle
    have hle : 1000 * (B.toNat : ℤ) + 1000 * H.toNat ≤ microseconds B + microseconds H := by
      simpa [loneArrival] using hle
    -- a product that wraps lowers the deadline
    have hB' := microseconds_le B
    have hH' := microseconds_le H
    constructor
    · by_contra hwrap
      have := microseconds_lt (not_le.mp hwrap)
      omega
    · by_contra hwrap
      have := microseconds_lt (not_le.mp hwrap)
      omega
  · rintro ⟨hB, hH⟩ mode es - o ho x hx hbroken
    obtain ⟨a, hhead, hle⟩ := handed_broken_deadline B H mode ho hx hbroken
    refine ⟨a, hhead, ?_⟩
    rw [microseconds_eq hB, microseconds_eq hH] at hle
    exact hle

/-- The packet of the lone fragment once more, at time 704. -/
def repeatedArrival : Arrival Unit :=
  { loneArrival with amb := { clockOpen := 704, clockPass := 704 } }

/-- A timeout of 4294968 ms, about 50 days, is over after 704 microseconds: the first of two
    fragments arrives at time 0, the same packet comes again at time 704, and that call hands the
    superframe out broken. -/
theorem not_givesUpInTime_wrapped : ¬ GivesUpInTime 4294968 0 := by
  intro h
  have hearly : ∃ o ∈ (receiverMachine Unit).outputs
      (Traced.fresh Unit 4294968 0 .RUN_TO_COMPLETION)
      [.receiveFragment loneArrival, .receiveFragment repeatedArrival],
      ∃ x ∈ o.handed, x.frame.mBroken = true ∧ x.lTimeNow = 704 ∧
        x.accepted.head?.map (fun a => a.amb.clockOpen) = some 0 := by
    decide +kernel
  obtain ⟨o, ho, x, hx, hbroken, htime, hopen⟩ := hearly
  obtain ⟨a, hhead, hle⟩ := h .RUN_TO_COMPLETION _ (by decide) o ho x hx hbroken
  rw [hhead, Option.map_some, Option.some.injEq] at hopen
  rw [hopen, htime] at hle
  exact absurd hle (by decide)

end ElasticFrame
