import ElasticFrame.EndToEnd.Retention

/-!
# End-to-End Integrity

Without head-of-line mode, whatever a channel loses, repeats or reorders within its bounds: a
superframe is handed over once at most, it is unbroken exactly when all of its fragments arrived,
and an unbroken one is what was sent (`Faithful`). It is handed over in the call that brings its
last fragment (`Prompt`).

The one superframe that need not be handed over is the one whose order is `UINT64_MAX`, the order
that a slot bears before it is opened. `not_delivered_faithfully_wrap` loses it.
-/

namespace ElasticFrame

open ElasticFrame.Lib

/-! ## §1 What is claimed -/

/-- What is handed over, in a run without head-of-line mode. -/
structure Faithful (T : Transmission) (B : UInt32) (as : List (Arrival (ℕ × ℕ))) : Prop where
  once : ((handedOver B 0 as).map HandOver.superframe).Nodup
  known : ∀ x ∈ handedOver B 0 as, ∃ k, x.superframe = some k
  unbroken : EachCall (fun pre a => ∀ x ∈ handedBy B 0 pre a, ∀ k, x.superframe = some k →
    (x.frame.mBroken = false ↔ T.Received (pre ++ [a]) k)) as
  content : ∀ x ∈ handedOver B 0 as, ∀ k, x.superframe = some k → x.frame.mBroken = false →
    (T.calls k).DeliveredAs x.frame

/-- The superframe is handed over, at the latest, in the call that brings its last fragment. -/
def Prompt (T : Transmission) (B : UInt32) (as : List (Arrival (ℕ × ℕ))) (k : ℕ) : Prop :=
  EachCall (fun pre a => T.Received (pre ++ [a]) k → ¬ HandedOut (handedOver B 0 pre) k →
    HandedOut (handedBy B 0 pre a) k) as

/-! ## §2 Every run -/

section Runs

variable {T : Transmission} {B H : UInt32} {as : List (Arrival (ℕ × ℕ))} {a : Arrival (ℕ × ℕ)}

/-- A call of a channel unpacks its fragment. -/
private theorem Channel.ready_unpacked (hchannel : Channel T (as ++ [a]))
    (hfree : FreeSlots B H (as ++ [a])) (halloc : a.amb.allocates = true)
    (hready : Ready T (2 ^ 64 - 1) as (afterCalls B H as) (handedOver B H as)) {f : Fragment}
    (hpacket : Fragment.ofPacket a.pSubPacket = some f) :
    Ready T (2 ^ 64 - 1) (as ++ [a]) ((afterCalls B H as).unpacked a f) (handedOver B H as) := by
  apply hready.unpacked (hchannel.admits hfree) hpacket halloc
  · intro b hb
    have hlate := hchannel.late_last b hb
    omega
  · decide
  · exact fun hlt _ => orderOf_ne_max hlt

/-- **The receiver of a channel is ready, after any number of calls.** -/
private theorem Channel.ready (hchannel : Channel T as) (hfree : FreeSlots B H as)
    (halloc : ∀ a ∈ as, a.amb.allocates = true) :
    Ready T (2 ^ 64 - 1) as (afterCalls B H as) (handedOver B H as) := by
  induction as using List.reverseRecOn with
  | nil => exact Ready.fresh hchannel.fresh _ B H
  | append_singleton as a ih =>
    obtain ⟨halloc, hnow⟩ := forall_concat.mp halloc
    have hbefore := ih hchannel.of_append hfree.of_append halloc
    obtain ⟨f, hpacket, -⟩ := (hchannel.admits hfree).fragment
    have hunpacked := hchannel.ready_unpacked hfree hnow hbefore hpacket
    rw [handedOver_concat, (call_eq hpacket).1, (call_eq hpacket).2]
    exact hunpacked.concluded _

/-- The state in which a call of a channel makes its pass. -/
private theorem Channel.pass (hchannel : Channel T as) (hfree : FreeSlots B H as)
    (halloc : ∀ a ∈ as, a.amb.allocates = true) {pre post : List (Arrival (ℕ × ℕ))}
    (hsplit : as = pre ++ a :: post) :
    ∃ s, Ready T (2 ^ 64 - 1) (pre ++ [a]) s (handedOver B H pre) ∧
      s.receiver.Configured B H .RUN_TO_COMPLETION ∧
      handedBy B H pre a = s.passHands a.amb.clockPass ∧
      afterCalls B H (pre ++ [a]) = s.concluded a.amb.clockPass := by
  have hshift : as = (pre ++ [a]) ++ post := by rw [hsplit, List.append_assoc]; rfl
  rw [hshift] at hchannel hfree halloc
  obtain ⟨halloc, hnow⟩ := forall_concat.mp (List.forall_mem_append.mp halloc).1
  have hready : Ready T (2 ^ 64 - 1) pre (afterCalls B H pre) (handedOver B H pre) :=
    hchannel.of_append.of_append.ready hfree.of_append.of_append halloc
  obtain ⟨f, hpacket, -⟩ := (hchannel.of_append.admits hfree.of_append).fragment
  refine ⟨(afterCalls B H pre).unpacked a f, ?_,
    (afterCalls_configured B H pre).unpack f a.lFromSource a.amb, (call_eq hpacket).2,
    (call_eq hpacket).1⟩
  exact hchannel.of_append.ready_unpacked hfree.of_append hnow hready hpacket

/-- Without head-of-line mode a complete bucket is selected. -/
theorem Tracked.selected_of_complete {s : Traced (ℕ × ℕ)} (h : Tracked T as s)
    (hcoherent : s.receiver.Coherent) (hoff : s.receiver.mHeadOfLineBlockingTimeoutms = 0) {k : ℕ}
    (hheld : s.Holds k) (hcomplete : (s.receiver.mBucketList (ringSlot k)).complete = true)
    (lTimeNow : ℤ) : ringSlot k ∈ (s.receiver.scan lTimeNow).selected.map Prod.snd := by
  obtain ⟨hactive, o, howner, -⟩ := hheld
  refine List.mem_map.mpr ⟨(orderOf o.superframe, ringSlot k), ?_, rfl⟩
  have hentry := (h.entry hcoherent (e := (orderOf o.superframe, ringSlot k))).mpr
    ⟨hactive, o, howner, rfl⟩
  rw [Receiver.scan, if_neg (fun hon => hon.1 hoff)]
  exact List.mem_filter.mpr ⟨hentry, by simp [Receiver.due, hcomplete]⟩

/-- **End-to-end integrity.** -/
theorem delivered_faithfully (hchannel : Channel T as) (hfree : FreeSlots B 0 as)
    (halloc : ∀ a ∈ as, a.amb.allocates = true) :
    Faithful T B as ∧ ∀ k, k + 1 < 2 ^ 64 → Prompt T B as k := by
  have hready := hchannel.ready hfree halloc
  refine ⟨⟨hready.once, hready.known, ?_, hready.content⟩, ?_⟩
  · intro pre a post hsplit x hx k hk
    obtain ⟨s, hs, -, hpass, -⟩ := hchannel.pass hfree halloc hsplit
    rw [hpass] at hx
    exact (hs.handed hx hk).1
  · intro k hlt pre a post hsplit hreceived hnot
    obtain ⟨s, hs, hconfigured, hpass, -⟩ := hchannel.pass hfree halloc hsplit
    rw [hpass, hs.tracked.handedOut_iff hs.coherent]
    -- the superframe arrived and was not handed over, so its bucket is in use
    obtain ⟨b, hb, rfl⟩ := hreceived.arrived
    have hheld := (hs.kept.retained b hb (by omega)).resolve_left hnot
    have hcomplete := (hs.kept.complete_iff hs.tracked hs.recorded hheld).mpr hreceived
    exact ⟨hheld, hs.tracked.selected_of_complete hs.coherent hconfigured.holTimeoutms hheld
      hcomplete _⟩

end Runs

/-! ## §3 Superframes of one byte -/

section OneByte

variable {B : UInt32} {as : List (Arrival (ℕ × ℕ))}

/-- After a call no bucket is in use, and so every slot is free. -/
private theorem idle_oneByte (hchannel : Channel (Transmission.oneByteEach 0) as)
    (halloc : ∀ a ∈ as, a.amb.allocates = true) :
    FreeSlots B 0 as ∧ ∀ i, ((afterCalls B 0 as).receiver.mBucketList i).mActive = false := by
  induction as using List.reverseRecOn with
  | nil =>
    exact ⟨EachCall.nil, fun i => (afterCalls_nil B 0 i).1⟩
  | append_singleton as a ih =>
    obtain ⟨hfree, hidle⟩ := ih hchannel.of_append (forall_concat.mp halloc).1
    have hfree := hfree.concat (a := a) fun hactive => by
      rw [hidle] at hactive
      exact absurd hactive Bool.false_ne_true
    have hlast : as ++ [a] = as ++ a :: [] := rfl
    obtain ⟨s, hs, hconfigured, -, hafter⟩ := hchannel.pass hfree halloc hlast
    refine ⟨hfree, fun i => ?_⟩
    by_contra hactive
    have hactive : ((afterCalls B 0 (as ++ [a])).receiver.mBucketList i).mActive = true := by
      simpa using hactive
    rw [hafter] at hactive
    obtain ⟨hleft, hsame⟩ := Traced.concluded_of_active hactive
    rw [hsame] at hactive
    -- a bucket in use is complete, and the pass takes it
    obtain ⟨o, _, howner, -⟩ := hs.tracked.held i hactive
    have hslot := hs.tracked.slot_eq howner
    rw [hslot] at hactive howner hleft
    have hheld : s.Holds o.superframe := ⟨hactive, o, howner, rfl⟩
    have hreceived := Transmission.oneByteEach_received (hs.tracked.owned _ o howner)
      (hs.tracked.emitted o (hs.tracked.owned _ o howner))
    have hcomplete := (hs.kept.complete_iff hs.tracked hs.recorded hheld).mpr hreceived
    exact hleft (hs.tracked.selected_of_complete hs.coherent hconfigured.holTimeoutms hheld
      hcomplete _)

end OneByte

/-! ## §4 Two runs -/

section TwoRuns

variable {B : UInt32}

/-- Two superframes in the wrong order, and the first one again. -/
def swappedArrivals : List (Arrival (ℕ × ℕ)) :=
  [oneByteArrival 1 1, oneByteArrival 0 0, oneByteArrival 1 1]

/-- `swappedArrivals` come through a channel. -/
theorem delivered_faithfully_swapped :
    Faithful (Transmission.oneByteEach 0) 100 swappedArrivals ∧
      ∀ k, k + 1 < 2 ^ 64 → Prompt (Transmission.oneByteEach 0) 100 swappedArrivals k := by
  have hchannel : Channel (Transmission.oneByteEach 0) swappedArrivals :=
    { fresh := rfl, emitted := by decide +kernel, start := by decide, near := by decide
      late := by decide }
  exact delivered_faithfully hchannel (idle_oneByte hchannel (by decide)).1 (by decide)

/-- Every 2048-th superframe, `n` of them. -/
def strideArrivals (n : ℕ) : List (Arrival (ℕ × ℕ)) :=
  (List.range n).map fun t =>
    oneByteArrival (2048 * t) ((Transmission.oneByteEach 0).number (2048 * t))

private theorem strideArrivals_succ (n : ℕ) : strideArrivals (n + 1) = strideArrivals n ++
    [oneByteArrival (2048 * n) ((Transmission.oneByteEach 0).number (2048 * n))] := by
  rw [strideArrivals, List.range_succ, List.map_append]
  rfl

private theorem mem_strideArrivals {n : ℕ} {a : Arrival (ℕ × ℕ)} (ha : a ∈ strideArrivals n) :
    ∃ t < n, a.superframe = 2048 * t ∧ a.amb = { clockOpen := 0, clockPass := 0 } := by
  obtain ⟨t, ht, rfl⟩ := List.mem_map.mp ha
  exact ⟨t, List.mem_range.mp ht, rfl, rfl⟩

private theorem channel_stride (n : ℕ) :
    Channel (Transmission.oneByteEach 0) (strideArrivals n) := by
  induction n with
  | zero => exact Channel.nil rfl
  | succ n ih =>
    rw [strideArrivals_succ]
    refine ih.concat (Transmission.oneByteEach_emits 0 (2048 * n)) ?_ ?_ ?_
    · -- the first one is superframe 0
      intro hempty
      cases n with
      | zero => decide
      | succ n => exact absurd hempty (by rw [strideArrivals_succ]; simp)
    · intro b hb
      cases n with
      | zero => exact absurd hb (by simp [strideArrivals])
      | succ n =>
        rw [strideArrivals_succ, List.getLast?_concat] at hb
        obtain rfl := Option.some.inj hb
        show |((2048 * n : ℕ) : ℤ) - (2048 * (n + 1) : ℕ)| < 4096
        rw [abs_lt]
        omega
    · intro b hb
      obtain ⟨t, ht, hsame, -⟩ := mem_strideArrivals hb
      show b.superframe < 2048 * n + 4096
      omega

/-- The superframe of order `UINT64_MAX` is not handed over when its slot was never opened. -/
private theorem lost_at_wrap {n : ℕ} (hn : 2048 * n = 2 ^ 64) {a : Arrival (ℕ × ℕ)}
    (ha : a = oneByteArrival (2 ^ 64 - 1) ((Transmission.oneByteEach 0).number (2 ^ 64 - 1))) :
    Channel (Transmission.oneByteEach 0) (strideArrivals n ++ [a]) ∧
      FreeSlots B 0 (strideArrivals n ++ [a]) ∧
      ¬ HandedOut (handedOver B 0 (strideArrivals n ++ [a])) (2 ^ 64 - 1) := by
  have hindex : a.superframe = 2 ^ 64 - 1 := by rw [ha]; rfl
  have hstride := channel_stride n
  have halloc : ∀ b ∈ strideArrivals n, b.amb.allocates = true := by
    intro b hb
    obtain ⟨t, -, -, hamb⟩ := mem_strideArrivals hb
    rw [hamb]
  obtain ⟨hfree, hidle⟩ := idle_oneByte (B := B) hstride halloc
  have hfree := hfree.concat (a := a) fun hactive => by
    rw [hidle] at hactive
    exact absurd hactive Bool.false_ne_true
  have hchannel : Channel (Transmission.oneByteEach 0) (strideArrivals n ++ [a]) := by
    have hemits := Transmission.oneByteEach_emits 0 (2 ^ 64 - 1)
    rw [← ha] at hemits
    refine hstride.concat hemits ?_ ?_ ?_
    · intro hempty
      have hlength := congrArg List.length hempty
      simp [strideArrivals] at hlength
      omega
    · intro b hb
      obtain ⟨m, rfl⟩ : ∃ m, n = m + 1 := ⟨n - 1, by omega⟩
      rw [strideArrivals_succ, List.getLast?_concat] at hb
      obtain rfl := Option.some.inj hb
      rw [hindex]
      show |((2048 * m : ℕ) : ℤ) - (2 ^ 64 - 1 : ℕ)| < 4096
      rw [abs_lt]
      omega
    · intro b hb
      obtain ⟨t, ht, hsame, -⟩ := mem_strideArrivals hb
      omega
  refine ⟨hchannel, hfree, ?_⟩
  have hready := hstride.ready hfree.of_append halloc
  have hrecorded := hready.recorded
  have hadmits := hchannel.admits hfree
  obtain ⟨f, hpacket, -⟩ := hadmits.fragment
  have hallocs : ∀ b ∈ strideArrivals n ++ [a], b.amb.allocates = true :=
    forall_concat.mpr ⟨halloc, by rw [ha]; rfl⟩
  -- the slot was never opened, so it bears the order of the superframe
  have hunopened : (afterCalls B 0 (strideArrivals n)).owner (ringSlot a.superframe) = none := by
    by_contra hsome
    obtain ⟨o, howner⟩ := Option.ne_none_iff_exists'.mp hsome
    obtain ⟨t, -, hsame, -⟩ := mem_strideArrivals (hready.tracked.owned _ o howner)
    have hmod := ringSlot_inj (hready.tracked.slot_eq howner)
    omega
  obtain ⟨hidle', horder⟩ := hready.tracked.numbered.unopened _ hunopened
  intro hhanded
  obtain ⟨o, howner, hle, -⟩ := (hchannel.ready hfree hallocs).kept.released _ hhanded
  rw [(call_eq hpacket).1, ← hindex] at howner
  have howner : ((afterCalls B 0 (strideArrivals n)).unpacked a f).owner (ringSlot a.superframe) =
      some o := howner
  have htaken := hready.tracked.taken hrecorded hadmits hpacket
  generalize (afterCalls B 0 (strideArrivals n)).unpacked a f = s' at htaken howner
  have hmax : orderOf a.superframe = UINT64_MAX := by
    rw [hindex]
    rfl
  cases htaken with
  | stale => exact absurd (hunopened.symm.trans howner) (by simp)
  | starved _ hnew _ => exact hnew (hmax.trans horder.symm)
  | opened _ hnew _ => exact hnew (hmax.trans horder.symm)
  | repeated hactive _ => exact absurd (hidle'.symm.trans hactive) Bool.false_ne_true
  | added hactive _ => exact absurd (hidle'.symm.trans hactive) Bool.false_ne_true

/-- The superframe whose order is `UINT64_MAX`, after every 2048-th one before it. -/
def wrapArrivals : List (Arrival (ℕ × ℕ)) :=
  strideArrivals (2 ^ 53) ++
    [oneByteArrival (2 ^ 64 - 1) ((Transmission.oneByteEach 0).number (2 ^ 64 - 1))]

/-- The last superframe of `wrapArrivals` is not handed over: its slot was never opened. -/
theorem not_delivered_faithfully_wrap :
    ¬ ∀ (T : Transmission) (B : UInt32) (as : List (Arrival (ℕ × ℕ))), Channel T as →
      FreeSlots B 0 as → (∀ a ∈ as, a.amb.allocates = true) → SteadyClock as →
      Faithful T B as ∧ ∀ k, Prompt T B as k := by
  intro h
  have hstride : (2048 : ℕ) * 2 ^ 53 = 2 ^ 64 := by norm_num
  obtain ⟨hchannel, hfree, hlost⟩ := lost_at_wrap (B := 100) hstride rfl
  rw [handedOver_concat, HandedOut.append] at hlost
  obtain ⟨hbefore, hnow⟩ := not_or.mp hlost
  have hamb : ∀ a ∈ wrapArrivals, a.amb = { clockOpen := 0, clockPass := 0 } := by
    refine forall_concat.mpr ⟨fun a ha => ?_, rfl⟩
    obtain ⟨t, -, -, hamb⟩ := mem_strideArrivals ha
    exact hamb
  have hclock : SteadyClock wrapArrivals := by
    -- every reading of the clock is zero
    have hzero : ∀ t ∈ wrapArrivals.flatMap fun a => [a.amb.clockOpen, a.amb.clockPass],
        t = 0 := by
      intro t ht
      obtain ⟨a, ha, ht⟩ := List.mem_flatMap.mp ht
      rw [hamb a ha] at ht
      simpa using ht
    refine List.pairwise_iff_forall_sublist.mpr fun {t t'} hsub => ?_
    rw [hzero t (hsub.subset List.mem_cons_self),
      hzero t' (hsub.subset (List.mem_cons_of_mem _ List.mem_cons_self))]
  obtain ⟨-, hprompt⟩ := h (Transmission.oneByteEach 0) 100 wrapArrivals hchannel hfree
    (fun a ha => by rw [hamb a ha]) hclock
  refine hnow (hprompt _ _ _ [] rfl ?_ hbefore)
  have hlast : oneByteArrival (2 ^ 64 - 1) ((Transmission.oneByteEach 0).number (2 ^ 64 - 1)) ∈
      wrapArrivals := mem_concat_self
  have hreceived := Transmission.oneByteEach_received hlast (hchannel.emitted _ hlast)
  have hindex : (oneByteArrival (2 ^ 64 - 1)
    ((Transmission.oneByteEach 0).number (2 ^ 64 - 1))).superframe = 2 ^ 64 - 1 := rfl
  rw [hindex] at hreceived
  exact hreceived

end TwoRuns

end ElasticFrame
