import ElasticFrame.EndToEnd.HeadOfLine
import ElasticFrame.EndToEnd.Retention
import ElasticFrame.Receiver.Drained

/-!
# Calls among Passes

In run-to-completion mode every call ends with its pass. Here the calls of a channel come among
passes of either engine, as many as one likes and at any times, in either mode, with or without
head-of-line mode.

- `Interleaved`: such a run
- `Serving`: the invariant, kept by every event (`Interleaved.next`)
- `delivered_among_passes`: what is handed over, and what is kept
- `delivered_once_drained`: after a late pass everything that arrived was handed over once
- `forward_among_passes`: head-of-line mode goes forward
-/

namespace ElasticFrame

open ElasticFrame.Lib

/-! ## §1 The pass of an event -/

/-- The state in which the event makes its pass: its fragment is unpacked. -/
def Traced.beforePass (s : Traced (ℕ × ℕ)) : Event (ℕ × ℕ) → Traced (ℕ × ℕ)
  | .receiveFragment a => (Fragment.ofPacket a.pSubPacket).elim s (s.unpacked a)
  | _ => s

theorem Traced.beforePass_call (s : Traced (ℕ × ℕ)) {a : Arrival (ℕ × ℕ)} {f : Fragment}
    (hpacket : Fragment.ofPacket a.pSubPacket = some f) :
    s.beforePass (.receiveFragment a) = s.unpacked a f := by
  simp [beforePass, hpacket]

/-- Unpacking is no delivery. -/
theorem Traced.beforePass_sameDelivery (s : Traced (ℕ × ℕ)) (e : Event (ℕ × ℕ)) :
    s.receiver.SameDelivery (s.beforePass e).receiver := by
  cases e with
  | receiveFragment a =>
    cases hpacket : Fragment.ofPacket a.pSubPacket with
    | none => simpa [beforePass, hpacket] using ⟨rfl, rfl, rfl, rfl, rfl, rfl, rfl⟩
    | some f =>
      rw [s.beforePass_call hpacket]
      exact s.receiver.unpackFragment_sameDelivery f a.lFromSource a.amb
  | runToCompletionMethod lTimeNow => exact ⟨rfl, rfl, rfl, rfl, rfl, rfl, rfl⟩
  | receiverWorkerPass lTimeNow => exact ⟨rfl, rfl, rfl, rfl, rfl, rfl, rfl⟩

/-- **An event unpacks its fragment, and then makes a pass or none.** -/
theorem Traced.step_pass {s : Traced (ℕ × ℕ)} (hcoherent : s.receiver.Coherent)
    (hrunning : s.receiver.Running) (e : Event (ℕ × ℕ)) :
    ∃ lTimeNow d, (s.beforePass e).receiver.Passes lTimeNow d ∧
      (s.step e).1 = (s.beforePass e).delivered d ∧
      (s.step e).2.handed = (s.beforePass e).handOvers lTimeNow d.handed := by
  have hparts := s.step_parts e
  generalize s.step e = out at hparts ⊢
  cases hparts with
  | refused a message accesses hmessage hwhy haccesses =>
    -- refused before it is unpacked, so without a pass
    have hbefore : s.beforePass (.receiveFragment a) = s := by simp [beforePass, hwhy hrunning]
    rw [hbefore]
    exact ⟨a.amb.clockPass, _, .idle, rfl, rfl⟩
  | cut a hpacket hsize d hd =>
    -- nothing is unpacked, but the pass is made
    have hbefore : s.beforePass (.receiveFragment a) = s := by simp [beforePass, hpacket]
    subst hd
    rw [hbefore]
    exact ⟨_, _, Receiver.runIfToCompletion_passes hcoherent.slotsDistinct _, rfl, rfl⟩
  | fragment a f header hpacket d hd =>
    have hdistinct := (hcoherent.unpack f a.lFromSource a.amb).slotsDistinct
    subst hd
    rw [s.beforePass_call hpacket]
    exact ⟨_, _, Receiver.runIfToCompletion_passes hdistinct _, rfl, rfl⟩
  | runToCompletion lTimeNow d hd =>
    subst hd
    exact ⟨_, _, Receiver.runToCompletionMethod_passes hcoherent.slotsDistinct _, rfl, rfl⟩
  | worker lTimeNow d hd =>
    subst hd
    exact ⟨_, _, Receiver.receiverWorkerPass_passes hcoherent.slotsDistinct _, rfl, rfl⟩

/-! ## §2 The invariant -/

/-- A receiver that was given these fragments of a channel and handed these superframes over. -/
structure Serving (T : Transmission) (as : List (Arrival (ℕ × ℕ))) (s : Traced (ℕ × ℕ))
    (hs : List (HandOver (ℕ × ℕ))) : Prop extends Ready T (2 ^ 64 - 1) as s hs where
  paced : Paced 4096 as s
  brought : ∀ k, HandedOut hs k → ∃ a ∈ as, a.superframe = k

namespace Serving

variable {T : Transmission} {as : List (Arrival (ℕ × ℕ))} {s : Traced (ℕ × ℕ)}
  {hs : List (HandOver (ℕ × ℕ))} {a : Arrival (ℕ × ℕ)} {f : Fragment}

/-- The receiver is ready for a call that keeps the bounds and finds its slot free. -/
theorem admits (h : Serving T as s hs) (hchannel : Channel T (as ++ [a])) (hfree : s.FreeFor a) :
    Admits T s a := hchannel.admits_of hfree h.tracked h.paced

/-- **A call.** -/
theorem unpacked (h : Serving T as s hs) (hchannel : Channel T (as ++ [a]))
    (hfree : s.FreeFor a) (halloc : a.amb.allocates = true)
    (hpacket : Fragment.ofPacket a.pSubPacket = some f) :
    Serving T (as ++ [a]) (s.unpacked a f) hs := by
  have hadmits := h.admits hchannel hfree
  have hlate := hchannel.late_last
  refine ⟨h.toReady.unpacked hadmits hpacket halloc ?_ (by decide) ?_, ?_, ?_⟩
  · intro b hb
    have hbehind := hlate b hb
    omega
  · exact fun hlt _ => orderOf_ne_max hlt
  · exact h.paced.taken h.tracked hfree
      (forall_concat.mpr ⟨hlate, Nat.lt_add_of_pos_right (by decide)⟩)
      (h.tracked.taken h.recorded hadmits hpacket)
  · intro k hk
    obtain ⟨b, hb, hsame⟩ := h.brought k hk
    exact ⟨b, List.mem_append_left _ hb, hsame⟩

/-- **A pass of either engine.** -/
theorem delivered (h : Serving T as s hs) {lTimeNow : ℤ} {d : Delivered}
    (hpass : s.receiver.Passes lTimeNow d) :
    Serving T as (s.delivered d) (hs ++ s.handOvers lTimeNow d.handed) := by
  cases hpass with
  | idle => simpa [Traced.handOvers, Traced.delivered] using h
  | scan =>
    refine ⟨h.toReady.concluded lTimeNow, ⟨h.paced.start, h.paced.ahead⟩, ?_⟩
    intro k hk
    rcases HandedOut.append.mp hk with hbefore | hnow
    · exact h.brought k hbefore
    · obtain ⟨⟨-, o, howner, hsame⟩, -⟩ := (h.tracked.handedOut_iff h.coherent).mp hnow
      exact ⟨o, h.tracked.owned _ o howner, hsame⟩

/-- **What a pass of either engine hands over** is unbroken when the whole superframe arrived. -/
theorem unbroken_iff (h : Serving T as s hs) {lTimeNow : ℤ} {d : Delivered}
    (hpass : s.receiver.Passes lTimeNow d) {x : HandOver (ℕ × ℕ)}
    (hx : x ∈ s.handOvers lTimeNow d.handed) {k : ℕ} (hk : x.superframe = some k) :
    x.frame.mBroken = false ↔ T.Received as k := by
  cases hpass with
  | idle => exact absurd hx List.not_mem_nil
  | scan => exact (h.toReady.handed hx hk).1

/-- A superframe that was handed over is one that came. -/
theorem named (h : Serving T as s hs) {x : HandOver (ℕ × ℕ)} (hx : x ∈ hs) :
    ∃ a ∈ as, x.superframe = some a.superframe := by
  obtain ⟨k, hk⟩ := h.known x hx
  obtain ⟨a, ha, rfl⟩ := h.brought k ⟨x, hx, hk⟩
  exact ⟨a, ha, hk⟩

/-- **When no bucket is in use, what came was handed over**, once. -/
theorem count (h : Serving T as s hs)
    (hidle : ∀ i, (s.receiver.mBucketList i).mActive = false) {k : ℕ} (hlt : k + 1 < 2 ^ 64) :
    (hs.map HandOver.superframe).count (some k) =
      if ∃ a ∈ as, a.superframe = k then 1 else 0 := by
  split
  case isTrue hcame =>
    obtain ⟨a, ha, rfl⟩ := hcame
    have hhanded := (h.kept.retained a ha (by omega)).resolve_right fun hheld =>
      absurd ((hidle _).symm.trans hheld.1) Bool.false_ne_true
    obtain ⟨x, hx, hk⟩ := hhanded
    exact List.count_eq_one_of_mem h.once (List.mem_map.mpr ⟨x, hx, hk⟩)
  case isFalse hnever =>
    rw [List.count_eq_zero]
    intro hmem
    obtain ⟨x, hx, hk⟩ := List.mem_map.mp hmem
    exact hnever (h.brought k ⟨x, hx, hk⟩)

end Serving

/-! ## §3 Every run -/

theorem arrivals_left {es es' : List (Event (ℕ × ℕ))} {a : Arrival (ℕ × ℕ)}
    (ha : a ∈ arrivals es) : a ∈ arrivals (es ++ es') := by
  rw [arrivals_append]
  exact List.mem_append_left _ ha

section Runs

variable (T : Transmission) (B H : UInt32) (mode : EFPReceiverMode) (es : List (Event (ℕ × ℕ)))

/-- What a run hands over, in order. -/
def handOvers : List (HandOver (ℕ × ℕ)) :=
  ((receiverMachine (ℕ × ℕ)).outputs (.fresh (ℕ × ℕ) B H mode) es).flatMap Report.handed

theorem handOvers_concat (e : Event (ℕ × ℕ)) :
    handOvers B H mode (es ++ [e]) = handOvers B H mode es ++
      (((receiverMachine (ℕ × ℕ)).run (.fresh (ℕ × ℕ) B H mode) es).step e).2.handed := by
  rw [handOvers, Machine.outputs_concat, List.flatMap_append, List.flatMap_singleton]
  rfl

/-- The calls of a channel, among passes of either engine. -/
structure Interleaved : Prop where
  channel : Channel T (arrivals es)
  free : ∀ s a, (receiverMachine (ℕ × ℕ)).Takes (.fresh (ℕ × ℕ) B H mode) es s
    (.receiveFragment a) → s.FreeFor a
  allocates : ∀ a ∈ arrivals es, a.amb.allocates = true

variable {T B H mode es} {e : Event (ℕ × ℕ)}

theorem Interleaved.of_append {es' : List (Event (ℕ × ℕ))}
    (h : Interleaved T B H mode (es ++ es')) : Interleaved T B H mode es where
  channel := by
    have hchannel := h.channel
    rw [arrivals_append] at hchannel
    exact hchannel.of_append
  free := fun s a ht => h.free s a (Machine.Takes.of_append _ ht)
  allocates := fun a ha => h.allocates a (arrivals_left ha)

/-- **The receiver in which an event makes its pass.** -/
theorem Interleaved.next (h : Interleaved T B H mode (es ++ [e])) {hs : List (HandOver (ℕ × ℕ))}
    (hbefore : Serving T (arrivals es)
      ((receiverMachine (ℕ × ℕ)).run (.fresh (ℕ × ℕ) B H mode) es) hs) :
    Serving T (arrivals (es ++ [e]))
      (((receiverMachine (ℕ × ℕ)).run (.fresh (ℕ × ℕ) B H mode) es).beforePass e) hs := by
  have hchannel := h.channel
  have halloc := h.allocates
  rw [arrivals_append] at hchannel halloc ⊢
  cases e with
  | receiveFragment a =>
    have hfree := h.free _ a (Machine.takes_last _ _ _ _)
    obtain ⟨f, hpacket, -⟩ := (hbefore.admits hchannel hfree).fragment
    rw [Traced.beforePass_call _ hpacket]
    exact hbefore.unpacked hchannel hfree (forall_concat.mp halloc).2 hpacket
  | runToCompletionMethod lTimeNow => exact (List.append_nil (arrivals es)).symm ▸ hbefore
  | receiverWorkerPass lTimeNow => exact (List.append_nil (arrivals es)).symm ▸ hbefore

/-- **Run lemma.** -/
theorem Interleaved.serving (h : Interleaved T B H mode es) :
    Serving T (arrivals es) ((receiverMachine (ℕ × ℕ)).run (.fresh (ℕ × ℕ) B H mode) es)
      (handOvers B H mode es) := by
  induction es using List.reverseRecOn with
  | nil =>
    exact
      { tracked :=
          { fresh := h.channel.fresh
            emitted := h.channel.emitted
            numbered := numbered_fresh T 0 B H mode
            owned := nofun
            held := nofun }
        kept := kept_fresh _ _
        coherent := Receiver.coherent_new B H mode
        assembling := fun P => assembling_run P B H mode []
        once := List.nodup_nil
        known := nofun
        content := nofun
        paced := ⟨fun _ => ⟨rfl, fun _ => rfl⟩, nofun⟩
        brought := fun k hk => absurd hk (by simp [HandedOut, handOvers, Machine.outputs]) }
  | append_singleton es e ih =>
    have hnext := h.next (ih h.of_append)
    -- an event is an unpacking and a pass, and each of them keeps the invariant
    obtain ⟨lTimeNow, d, hpass, hstep, hhanded⟩ :=
      Traced.step_pass (coherent_run B H mode es) (configured_run B H mode es).running e
    rw [Machine.run_concat, handOvers_concat, hhanded]
    have hstep' : ((receiverMachine (ℕ × ℕ)).step
        ((receiverMachine (ℕ × ℕ)).run (.fresh (ℕ × ℕ) B H mode) es) e).1 = _ := hstep
    rw [hstep']
    exact hnext.delivered hpass

/-- **What an event hands over** is unbroken when the whole superframe has come with it. -/
theorem Interleaved.unbroken_iff {pre post : List (Event (ℕ × ℕ))}
    (h : Interleaved T B H mode (pre ++ e :: post)) {x : HandOver (ℕ × ℕ)}
    (hx : x ∈ (((receiverMachine (ℕ × ℕ)).run (.fresh (ℕ × ℕ) B H mode) pre).step e).2.handed)
    {k : ℕ} (hk : x.superframe = some k) :
    x.frame.mBroken = false ↔ T.Received (arrivals (pre ++ [e])) k := by
  rw [List.append_cons] at h
  obtain ⟨lTimeNow, d, hpass, -, hhanded⟩ :=
    Traced.step_pass (coherent_run B H mode pre) (configured_run B H mode pre).running e
  rw [hhanded] at hx
  exact (h.of_append.next h.of_append.of_append.serving).unbroken_iff hpass hx hk

/-- An unbroken superframe has come whole. -/
theorem Interleaved.received (h : Interleaved T B H mode es) {x : HandOver (ℕ × ℕ)}
    (hx : x ∈ handOvers B H mode es) {k : ℕ} (hk : x.superframe = some k)
    (hunbroken : x.frame.mBroken = false) : T.Received (arrivals es) k := by
  obtain ⟨o, ho, hx⟩ := List.mem_flatMap.mp hx
  obtain ⟨s, e, ⟨pre, post, rfl, rfl⟩, rfl⟩ := ((receiverMachine _).mem_outputs_iff).mp ho
  have hreceived := (h.unbroken_iff hx hk).mp hunbroken
  -- what had come before the pass has come now
  intro j hj
  obtain ⟨a, ha, hlabel⟩ := hreceived j hj
  refine ⟨a, ?_, hlabel⟩
  rw [List.append_cons]
  exact arrivals_left ha

/-- What is handed over among passes. -/
structure DeliveredAmong (T : Transmission) (B H : UInt32) (mode : EFPReceiverMode)
    (es : List (Event (ℕ × ℕ))) : Prop where
  once : ((handOvers B H mode es).map HandOver.superframe).Nodup
  brought : ∀ x ∈ handOvers B H mode es, ∃ a ∈ arrivals es, x.superframe = some a.superframe
  unbroken : ∀ s e pre post, es = pre ++ e :: post →
    s = (receiverMachine (ℕ × ℕ)).run (.fresh (ℕ × ℕ) B H mode) pre → ∀ x ∈ (s.step e).2.handed,
    ∀ k, x.superframe = some k → (x.frame.mBroken = false ↔ T.Received (arrivals (pre ++ [e])) k)
  content : ∀ x ∈ handOvers B H mode es, ∀ k, x.superframe = some k → x.frame.mBroken = false →
    (T.calls k).DeliveredAs x.frame
  retained : ∀ a ∈ arrivals es, a.superframe + 1 < 2 ^ 64 →
    HandedOut (handOvers B H mode es) a.superframe ∨
      ((receiverMachine (ℕ × ℕ)).run (.fresh (ℕ × ℕ) B H mode) es).Holds a.superframe

/-- **Delivery among passes.** Whatever a channel loses, repeats or reorders within its bounds, and
    whatever passes are made between its calls, of either engine, at any times, in either mode, with
    or without head-of-line mode: a superframe is handed over at most once, and only if a fragment
    of it came; it is unbroken exactly when all of its fragments came before the pass, and an
    unbroken one is what was sent; and nothing that came is lost: it was handed over, or its bucket
    is in use for it. -/
theorem delivered_among_passes (h : Interleaved T B H mode es) :
    DeliveredAmong T B H mode es := by
  have hserving := h.serving
  refine ⟨hserving.once, fun x hx => hserving.named hx, ?_, hserving.content, ?_⟩
  · rintro s e pre post rfl rfl x hx k hk
    exact h.unbroken_iff hx hk
  · intro a ha hlt
    exact hserving.kept.retained a ha (by omega)

/-- Two superframes in the wrong order and the first one again, with two passes in between. The
    first pass waits for its first run. -/
def interleavedRun : List (Event (ℕ × ℕ)) :=
  [.receiveFragment (oneByteArrival 1 1), .receiverWorkerPass 10000,
    .receiveFragment (oneByteArrival 0 0), .receiverWorkerPass 20000,
    .receiveFragment (oneByteArrival 1 1)]

theorem interleavedRun_interleaved :
    Interleaved (Transmission.oneByteEach 0) 100 50 .THREADED interleavedRun where
  channel := { fresh := rfl, emitted := by decide +kernel, start := by decide, near := by decide
               late := by decide }
  free := by
    intro s a htakes hactive
    -- no bucket of these superframes is in use
    simp only [interleavedRun, Machine.takes_cons_iff, Machine.not_takes_nil, or_false] at htakes
    rcases htakes with ⟨rfl, h⟩ | ⟨rfl, h⟩ | ⟨rfl, h⟩ | ⟨rfl, h⟩ | ⟨rfl, h⟩
    all_goals cases h
    all_goals exact absurd hactive (by decide +kernel)
  allocates := by decide

/-- `interleavedRun` is one of these runs. -/
theorem delivered_among_passes_waiting :
    DeliveredAmong (Transmission.oneByteEach 0) 100 50 .THREADED interleavedRun :=
  delivered_among_passes interleavedRun_interleaved

/-- One more pass. -/
theorem Interleaved.pass (h : Interleaved T B H mode es) {lTimeNow : ℤ}
    (he : e = .runToCompletionMethod lTimeNow ∨ e = .receiverWorkerPass lTimeNow) :
    Interleaved T B H mode (es ++ [e]) ∧ arrivals (es ++ [e]) = arrivals es := by
  -- a pass is no call
  have hnone : arrivals (es ++ [e]) = arrivals es := by
    rw [arrivals_append]
    rcases he with rfl | rfl
    · exact List.append_nil _
    · exact List.append_nil _
  refine ⟨⟨by rw [hnone]; exact h.channel, ?_, by rw [hnone]; exact h.allocates⟩, hnone⟩
  intro s a ht
  rcases (Machine.takes_concat_iff _).mp ht with hbefore | ⟨-, hlast⟩
  · exact h.free s a hbefore
  · rcases he with rfl | rfl
    · exact absurd hlast (by simp)
    · exact absurd hlast (by simp)

/-- **Everything that came is handed over.** When such a run ends with a pass behind all deadlines,
    the superframes handed over are those of which a fragment came, each of them once. -/
theorem delivered_once_drained (h : Interleaved T B H mode es) {lTimeNow : ℤ}
    (hexpired : Expired B H es lTimeNow)
    (he : e = .runToCompletionMethod lTimeNow ∨ e = .receiverWorkerPass lTimeNow) {k : ℕ}
    (hlt : k + 1 < 2 ^ 64) :
    ((handOvers B H mode (es ++ [e])).map HandOver.superframe).count (some k) =
      if ∃ a ∈ arrivals es, a.superframe = k then 1 else 0 := by
  obtain ⟨hpass, hnone⟩ := h.pass he
  rw [← hnone]
  exact hpass.serving.count (hexpired.idle he) hlt

/-- `interleavedRun`, and a pass after its deadlines. -/
theorem delivered_once_drained_late :
    ((handOvers 100 50 .THREADED (interleavedRun ++ [.receiverWorkerPass 200000])).map
      HandOver.superframe).count (some 0) =
        if ∃ a ∈ arrivals interleavedRun, a.superframe = 0 then 1 else 0 := by
  have hexpired : Expired 100 50 interleavedRun 200000 := by
    intro a ha
    simp only [interleavedRun, List.mem_cons, Event.receiveFragment.injEq, List.not_mem_nil,
      or_false, reduceCtorEq, false_or] at ha
    rcases ha with rfl | rfl | rfl <;> decide
  exact delivered_once_drained interleavedRun_interleaved hexpired (Or.inr rfl) (by decide)

/-! ## §4 Head-of-line mode -/

/-- Once the head is set, no call opens a bucket below it. -/
def OpensAhead (B H : UInt32) (mode : EFPReceiverMode) (es : List (Event (ℕ × ℕ))) : Prop :=
  ∀ s a, (receiverMachine (ℕ × ℕ)).Takes (.fresh (ℕ × ℕ) B H mode) es s (.receiveFragment a) →
    s.OpensAhead a

/-- A pass of either engine moves the head forward, past what it hands over. -/
private theorem HeadKept.delivered {s : Traced (ℕ × ℕ)} {ks : List ℕ} (h : HeadKept s ks)
    {as : List (Arrival (ℕ × ℕ))} {hs : List (HandOver (ℕ × ℕ))} (hserving : Serving T as s hs)
    (hhol : s.receiver.mHeadOfLineBlockingTimeoutms ≠ 0)
    (hindex : ∀ b ∈ as, b.superframe < 2 ^ 64 - 1) {lTimeNow : ℤ} {d : Delivered}
    (hpass : s.receiver.Passes lTimeNow d) :
    ∃ ks', (s.handOvers lTimeNow d.handed).map HandOver.superframe = ks'.map some ∧
      HeadKept (s.delivered d) (ks ++ ks') ∧
      s.receiver.mNextExpectedFrameNumber ≤ d.receiver.mNextExpectedFrameNumber := by
  cases hpass with
  | idle => exact ⟨[], rfl, (List.append_nil ks).symm ▸ h, UInt64.le_refl _⟩
  | scan => exact h.concluded hserving.tracked hserving.coherent hhol hindex lTimeNow

/-- Unpacking leaves the head where it is. -/
theorem HeadKept.beforePass (h : Interleaved T B H mode (es ++ [e]))
    (hahead : OpensAhead B H mode (es ++ [e])) {ks : List ℕ}
    (hkept : HeadKept ((receiverMachine (ℕ × ℕ)).run (.fresh (ℕ × ℕ) B H mode) es) ks) :
    HeadKept (((receiverMachine (ℕ × ℕ)).run (.fresh (ℕ × ℕ) B H mode) es).beforePass e) ks := by
  have hserving := h.of_append.serving
  cases e with
  | receiveFragment a =>
    have hchannel := h.channel
    rw [arrivals_append] at hchannel
    have hadmits := hserving.admits hchannel (h.free _ a (Machine.takes_last _ _ _ _))
    obtain ⟨f, hpacket, -⟩ := hadmits.fragment
    rw [Traced.beforePass_call _ hpacket]
    exact hkept.unpacked (hahead _ a (Machine.takes_last _ _ _ _))
      (hserving.tracked.taken hserving.recorded hadmits hpacket)
  | runToCompletionMethod lTimeNow => exact hkept
  | receiverWorkerPass lTimeNow => exact hkept

/-- One more event: what it hands over, and where the head is then. -/
private theorem HeadKept.next (hhol : H ≠ 0) (h : Interleaved T B H mode (es ++ [e]))
    (hindex : ∀ a ∈ arrivals (es ++ [e]), a.superframe < 2 ^ 64 - 1)
    (hahead : OpensAhead B H mode (es ++ [e])) {ks : List ℕ}
    (hkept : HeadKept ((receiverMachine (ℕ × ℕ)).run (.fresh (ℕ × ℕ) B H mode) es) ks) :
    let s := (receiverMachine (ℕ × ℕ)).run (.fresh (ℕ × ℕ) B H mode) es
    ∃ ks', (s.step e).2.handed.map HandOver.superframe = ks'.map some ∧
      HeadKept (s.step e).1 (ks ++ ks') ∧
      s.receiver.mNextExpectedFrameNumber ≤ (s.step e).1.receiver.mNextExpectedFrameNumber := by
  intro s
  have hnext := h.next h.of_append.serving
  have hkept' := hkept.beforePass h hahead
  have hsame := s.beforePass_sameDelivery e
  have hholH : (s.beforePass e).receiver.mHeadOfLineBlockingTimeoutms = H :=
    hsame.holTimeoutms.trans (configured_run B H mode es).holTimeoutms
  obtain ⟨lTimeNow, d, hpass, hstep, hhanded⟩ :=
    Traced.step_pass (coherent_run B H mode es) (configured_run B H mode es).running e
  rw [hstep, hhanded, ← hsame.nextExpected]
  exact hkept'.delivered hnext (fun hzero => hhol (hholH.symm.trans hzero)) hindex hpass

/-- **Run lemma.** -/
theorem Interleaved.headKept (hhol : H ≠ 0) (h : Interleaved T B H mode es)
    (hindex : ∀ a ∈ arrivals es, a.superframe < 2 ^ 64 - 1) (hahead : OpensAhead B H mode es) :
    ∃ ks : List ℕ, (handOvers B H mode es).map HandOver.superframe = ks.map some ∧
      HeadKept ((receiverMachine (ℕ × ℕ)).run (.fresh (ℕ × ℕ) B H mode) es) ks := by
  induction es using List.reverseRecOn with
  | nil =>
    exact ⟨[], rfl,
      { first := fun _ => ⟨rfl, rfl⟩
        below := nofun
        above := nofun
        increasing := List.Pairwise.nil }⟩
  | append_singleton es e ih =>
    obtain ⟨ks, hks, hkept⟩ := ih h.of_append (fun a ha => hindex a (arrivals_left ha))
      (fun s a ht => hahead s a (Machine.Takes.of_append _ ht))
    obtain ⟨ks', hks', hkept', -⟩ := HeadKept.next hhol h hindex hahead hkept
    refine ⟨ks ++ ks', ?_, ?_⟩
    · rw [handOvers_concat, List.map_append, List.map_append, hks, hks']
    · rw [Machine.run_concat]
      exact hkept'

/-- **Head-of-line mode goes forward**, whatever passes are made between the calls, as long as no
    call opens a bucket below the head. -/
theorem forward_among_passes (hhol : H ≠ 0) (h : Interleaved T B H mode es)
    (hindex : ∀ a ∈ arrivals es, a.superframe < 2 ^ 64 - 1) (hahead : OpensAhead B H mode es) :
    (∃ ks : List ℕ, (handOvers B H mode es).map HandOver.superframe = ks.map some ∧
      ks.Pairwise (· < ·)) ∧
    ∀ pre e post, es = pre ++ e :: post →
      let run := (receiverMachine (ℕ × ℕ)).run (.fresh (ℕ × ℕ) B H mode)
      (run pre).receiver.mNextExpectedFrameNumber ≤
        (run (pre ++ [e])).receiver.mNextExpectedFrameNumber := by
  constructor
  · obtain ⟨ks, hks, hkept⟩ := h.headKept hhol hindex hahead
    exact ⟨ks, hks, hkept.increasing⟩
  · intro pre e post hsplit run
    have hsplit : es = (pre ++ [e]) ++ post := by rw [hsplit, List.append_cons]
    subst hsplit
    have hindex' : ∀ a ∈ arrivals (pre ++ [e]), a.superframe < 2 ^ 64 - 1 := fun a ha =>
      hindex a (arrivals_left ha)
    have hahead' : OpensAhead B H mode (pre ++ [e]) := fun s a ht =>
      hahead s a (Machine.Takes.of_append _ ht)
    obtain ⟨ks, -, hkept⟩ := h.of_append.of_append.headKept hhol
      (fun a ha => hindex' a (arrivals_left ha))
      (fun s a ht => hahead' s a (Machine.Takes.of_append _ ht))
    obtain ⟨-, -, -, hle⟩ := HeadKept.next hhol h.of_append hindex' hahead' hkept
    have hstep : run (pre ++ [e]) = ((run pre).step e).1 := Machine.run_concat _ _ _ _
    rw [hstep]
    exact hle

/-- The head is set by the second pass, and what comes after it is too old. -/
theorem interleavedRun_ahead : OpensAhead 100 50 .THREADED interleavedRun := by
  intro s a htakes hset _ hnew _
  simp only [interleavedRun, Machine.takes_cons_iff, Machine.not_takes_nil, or_false] at htakes
  rcases htakes with ⟨rfl, h⟩ | ⟨rfl, h⟩ | ⟨rfl, h⟩ | ⟨rfl, h⟩ | ⟨rfl, h⟩
  all_goals cases h
  · exact absurd hset (by decide +kernel)
  · exact absurd hset (by decide +kernel)
  · exact absurd hnew (by decide +kernel)

/-- `interleavedRun` goes forward. -/
theorem forward_among_passes_waiting :
    ∃ ks : List ℕ, (handOvers 100 50 .THREADED interleavedRun).map HandOver.superframe =
      ks.map some ∧ ks.Pairwise (· < ·) :=
  (forward_among_passes (by decide) interleavedRun_interleaved (by decide) interleavedRun_ahead).1

end Runs

end ElasticFrame
