import ElasticFrame.EndToEnd.Numbering

/-!
# Who is Told to be Too Old

An unpack function returns `tooOldFragment` when the order of a fragment is the one that its slot
last held. That is meant to say that the superframe was delivered already. It says so unless

- the slot was never opened and the order is `UINT64_MAX`, the order such a slot bears: the rank
  of the superframe is `-1`; or
- the renumbering lost its way, because a fragment is `2 ^ 15` or more superframes away from the
  last one that was renumbered.

`tooOld_only_if_opened` says that nothing else goes wrong, and `not_tooOld_only_if_opened_join` has
the smallest run for the first.
-/

namespace ElasticFrame

open ElasticFrame.Lib

variable {T : Transmission}

/-! ## §1 What is claimed -/

/-- In the run, a call with a fragment of this superframe opened a bucket. -/
def OpenedIn (B H : UInt32) (mode : EFPReceiverMode) (es : List (Event (ℕ × ℕ))) (k : ℕ) : Prop :=
  ∃ s a, (receiverMachine (ℕ × ℕ)).Takes (Traced.fresh (ℕ × ℕ) B H mode) es s (.receiveFragment a) ∧
    a.superframe = k ∧ (s.step (.receiveFragment a)).2.opened = true

/-- A call returns `tooOldFragment` only if an earlier one with a fragment of the same superframe
    opened its bucket. -/
def TooOldOnlyIfOpened (B H : UInt32) (mode : EFPReceiverMode) (es : List (Event (ℕ × ℕ))) : Prop :=
  ∀ pre a post, es = pre ++ .receiveFragment a :: post →
    (((receiverMachine (ℕ × ℕ)).run (Traced.fresh (ℕ × ℕ) B H mode) pre).step
      (.receiveFragment a)).2.message = some .tooOldFragment →
    OpenedIn B H mode pre a.superframe

/-- The condition on one call: its fragment does not have the rank `-1`, nor one near `2 ^ 64`, and
    when it is renumbered it is close to the last one that was. -/
structure Traced.InSequence (T : Transmission) (base : ℤ) (s : Traced (ℕ × ℕ))
    (a : Arrival (ℕ × ℕ)) : Prop where
  near : (s.receiver.mBucketList (slotOf (T.number a.superframe))).mActive = false →
    ∀ c, s.latest = some c → |(a.superframe : ℤ) - c.superframe| < 2 ^ 15
  rank : base + a.superframe ≠ -1
  below : base + a.superframe < 2 ^ 64 - 4096

/-! ## §2 Steps of the trace -/

/-- Only a fragment is told to be too old. -/
private theorem tooOld_fragment {τ : Type} {s : Traced τ} {a : Arrival τ}
    (hmessage : (s.step (.receiveFragment a)).2.message = some .tooOldFragment) :
    ∃ f, Fragment.ofPacket a.pSubPacket = some f ∧
      (s.receiver.unpackFragment f a.lFromSource a.amb).message = .tooOldFragment := by
  have hparts := s.step_parts (.receiveFragment a)
  generalize s.step (.receiveFragment a) = out at hparts hmessage
  cases hparts with
  | refused _ message accesses hmem hwhy haccesses =>
    obtain rfl := Option.some.inj hmessage
    exact absurd hmem (by simp)
  | cut _ hpacket hsize d hd => exact absurd hmessage (by simp)
  | fragment _ f header hpacket d hd => exact ⟨f, hpacket, Option.some.inj hmessage⟩

/-- A slot has a new owner only when the step reports an opening. -/
private theorem step_owner {τ : Type} {s : Traced τ} {e : Event τ} {i : Slot} {b : Arrival τ}
    (howner : (s.step e).1.owner i = some b) :
    s.owner i = some b ∨ (e = .receiveFragment b ∧ (s.step e).2.opened = true) := by
  have hparts := s.step_parts e
  generalize s.step e = out at hparts howner ⊢
  cases hparts with
  | refused => exact Or.inl howner
  | cut => exact Or.inl howner
  | runToCompletion => exact Or.inl howner
  | worker => exact Or.inl howner
  | fragment a f header hpacket d hd =>
    have howner : s.owners a f (s.receiver.unpackFragment f a.lFromSource a.amb).message i =
        some b := howner
    -- the trace writes an owner exactly when it reports an opening
    unfold Traced.owners at howner
    split at howner
    case isTrue hopens =>
      rcases eq_or_ne i f.slot with rfl | hne
      · rw [Function.update_self] at howner
        obtain rfl := Option.some.inj howner
        exact Or.inr ⟨rfl, hopens⟩
      · rw [Function.update_of_ne hne] at howner
        exact Or.inl howner
    case isFalse => exact Or.inl howner

/-- A fragment that comes when no bucket is in use is renumbered. -/
private theorem unpacked_latest {τ : Type} {s : Traced τ} (a : Arrival τ) (f : Fragment)
    (hidle : s.latest = none → ∀ i, (s.receiver.mBucketList i).mActive = false) :
    (s.unpacked a f).latest ≠ none := by
  intro hnone
  have houtcome := s.unpacked_outcome a f
  generalize s.unpacked a f = s' at houtcome hnone
  generalize (s.receiver.unpackFragment f a.lFromSource a.amb).message = message at houtcome
  cases houtcome with
  | tooOld => exact absurd hnone (by simp)
  | refused => exact absurd hnone (by simp)
  | opened => exact absurd hnone (by simp)
  | outOfResources hactive _ => exact absurd (hidle hnone f.slot) (by simp [hactive])
  | outOfBounds hactive _ _ => exact absurd (hidle hnone f.slot) (by simp [hactive])
  | duplicate hactive _ _ => exact absurd (hidle hnone f.slot) (by simp [hactive])
  | added hactive _ _ _ _ => exact absurd (hidle hnone f.slot) (by simp [hactive])

/-! ## §3 The invariant of a run -/

/-- The invariant: the receiver is numbered, the owners of its slots opened them, and it has
    renumbered the first fragment that arrived. -/
structure Sequenced (T : Transmission) (base : ℤ) (B H : UInt32) (mode : EFPReceiverMode)
    (es : List (Event (ℕ × ℕ))) (s : Traced (ℕ × ℕ)) : Prop where
  numbered : Numbered T base s
  ranks : ∀ i b, s.owner i = some b →
    -4096 < base + b.superframe ∧ base + b.superframe < 2 ^ 64 - 4096
  owners : ∀ i b, s.owner i = some b → OpenedIn B H mode es b.superframe
  started : s.latest = none → arrivals es = [] ∧ ∀ i, s.owner i = none

/-- The condition on an event, in a run whose events so far are known. -/
structure InSequence (T : Transmission) (base : ℤ) (es : List (Event (ℕ × ℕ)))
    (s : Traced (ℕ × ℕ)) (a : Arrival (ℕ × ℕ)) : Prop extends s.InSequence T base a where
  emitted : T.Emits a
  above : -4096 < base + a.superframe
  first : arrivals es = [] → 0 ≤ base + a.superframe ∧ base + a.superframe < 2 ^ 16

section Step

variable {base : ℤ} (hbase : (2 ^ 16 : ℤ) ∣ base - T.lSuperFrameNo.toNat) {B H : UInt32}
  {mode : EFPReceiverMode} {es : List (Event (ℕ × ℕ))}
  (h : Sequenced T base B H mode es
    ((receiverMachine (ℕ × ℕ)).run (Traced.fresh (ℕ × ℕ) B H mode) es))

include hbase h

/-- A fragment whose slot is free gets its rank as its order. -/
private theorem Sequenced.candidate {a : Arrival (ℕ × ℕ)}
    (ha : InSequence T base es
      ((receiverMachine (ℕ × ℕ)).run (Traced.fresh (ℕ × ℕ) B H mode) es) a)
    (hidle : (((receiverMachine (ℕ × ℕ)).run (Traced.fresh (ℕ × ℕ) B H mode)
      es).receiver.mBucketList (slotOf (T.number a.superframe))).mActive = false) :
    ((receiverMachine (ℕ × ℕ)).run (Traced.fresh (ℕ × ℕ) B H mode) es).receiver.candidate
      (T.number a.superframe) = orderOf (base + a.superframe) :=
  h.numbered.candidate hbase (fun hnone => ha.first (h.started hnone).1) (ha.near hidle)

/-- **Step lemma.** -/
private theorem Sequenced.step {e : Event (ℕ × ℕ)}
    (he : ∀ a, e = .receiveFragment a → InSequence T base es
      ((receiverMachine (ℕ × ℕ)).run (Traced.fresh (ℕ × ℕ) B H mode) es) a) :
    Sequenced T base B H mode (es ++ [e])
      (((receiverMachine (ℕ × ℕ)).run (Traced.fresh (ℕ × ℕ) B H mode) es).step e).1 := by
  have hcoherent := coherent_run B H mode es
  have hrunning := (configured_run B H mode es).running
  have hcandidate := fun a ha => h.candidate (a := a) hbase ha
  have htakes := fun {x : Traced (ℕ × ℕ)} {i : Event (ℕ × ℕ)} =>
    (receiverMachine (ℕ × ℕ)).takes_concat_iff (s := Traced.fresh (ℕ × ℕ) B H mode) (w := es)
      (j := e) (x := x) (i := i)
  -- from here on the state is any state with these properties
  generalize (receiverMachine (ℕ × ℕ)).run (Traced.fresh (ℕ × ℕ) B H mode) es = s at *
  refine ⟨?_, ?_, ?_, ?_⟩
  · -- the numbering
    have hstep := Traced.step_rule (e := e) (I := fun s => s.receiver.Coherent ∧ Numbered T base s)
      (fun _ hI => hI.1.slotsDistinct)
      (fun _ lTimeNow hI => ⟨hI.1.conclude lTimeNow, hI.2.concluded lTimeNow⟩)
      ⟨hcoherent, h.numbered⟩ (fun a f hea hpacket => by
        have ha := he a hea
        have hnumber := ha.emitted.number hpacket
        refine ⟨hcoherent.unpack f a.lFromSource a.amb, h.numbered.unpacked hnumber ?_⟩
        intro hidle
        apply hcandidate a ha
        rw [← hnumber]
        exact hidle)
    exact hstep.2
  · intro i b hb
    rcases step_owner hb with hb | ⟨rfl, -⟩
    · exact h.ranks i b hb
    · exact ⟨(he b rfl).above, (he b rfl).below⟩
  · intro i b hb
    rcases step_owner hb with hb | ⟨rfl, hopened⟩
    · obtain ⟨x, a, htaken, hsame, hopened⟩ := h.owners i b hb
      exact ⟨x, a, Machine.Takes.concat _ htaken _, hsame, hopened⟩
    · exact ⟨s, b, htakes.mpr (Or.inr ⟨rfl, rfl⟩), rfl, hopened⟩
  · intro hnone
    cases e with
    | receiveFragment a =>
      -- the first fragment finds its slot free and is renumbered
      exfalso
      obtain ⟨f, -, hpacket, -, -⟩ := (he a rfl).emitted.fragment
      rw [(Traced.step_of_fragment hrunning hpacket).1] at hnone
      exact unpacked_latest a f
        (fun hstart i => (h.numbered.unopened i ((h.started hstart).2 i)).1) hnone
    | runToCompletionMethod lTimeNow =>
      have hstart := h.started hnone
      refine ⟨?_, hstart.2⟩
      rw [arrivals_append, hstart.1]
      rfl
    | receiverWorkerPass lTimeNow =>
      have hstart := h.started hnone
      refine ⟨?_, hstart.2⟩
      rw [arrivals_append, hstart.1]
      rfl

/-- **A fragment that is told to be too old** is of a superframe that opened its slot before. -/
private theorem Sequenced.of_tooOld {a : Arrival (ℕ × ℕ)}
    (ha : InSequence T base es
      ((receiverMachine (ℕ × ℕ)).run (Traced.fresh (ℕ × ℕ) B H mode) es) a)
    (hmessage : (((receiverMachine (ℕ × ℕ)).run (Traced.fresh (ℕ × ℕ) B H mode) es).step
      (.receiveFragment a)).2.message = some .tooOldFragment) :
    OpenedIn B H mode es a.superframe := by
  obtain ⟨f, hpacket, hold⟩ := tooOld_fragment hmessage
  have hnumber := ha.emitted.number hpacket
  have hcandidate := fun hidle => h.candidate hbase ha hidle
  have houtcome := ((receiverMachine (ℕ × ℕ)).run (Traced.fresh (ℕ × ℕ) B H mode)
    es).unpacked_outcome a f
  generalize (receiverMachine (ℕ × ℕ)).run (Traced.fresh (ℕ × ℕ) B H mode) es = s at *
  have hslot : slotOf (T.number a.superframe) = f.slot := by rw [← hnumber]; rfl
  rw [hold] at houtcome
  generalize s.unpacked a f = s' at houtcome
  cases houtcome with
  | refused _ _ _ _ hne => exact absurd rfl hne
  | tooOld hidle hsame =>
    rw [hslot] at hcandidate
    rw [hnumber, hcandidate hidle] at hsame
    have habove := ha.above
    have hbelow := ha.below
    cases howner : s.owner f.slot with
    | none =>
      -- a slot never opened has the order of rank `-1`
      rw [(h.numbered.unopened _ howner).2, ← orderOf_neg_one] at hsame
      have hrank := orderOf_inj (abs_lt.mpr ⟨by omega, by omega⟩) hsame
      exact absurd hrank ha.rank
    | some b =>
      -- equal orders of ranks in one range are equal ranks
      obtain ⟨-, horder, -⟩ := h.numbered.opened _ b howner
      obtain ⟨habove', hbelow'⟩ := h.ranks _ b howner
      rw [horder] at hsame
      have hrank := orderOf_inj (abs_lt.mpr ⟨by omega, by omega⟩) hsame
      have heq : a.superframe = b.superframe := by omega
      rw [heq]
      exact h.owners _ b howner

end Step

/-! ## §4 Every run -/

section Runs

variable (B H : UInt32) (mode : EFPReceiverMode) {es : List (Event (ℕ × ℕ))}

/-- The rank of the first superframe that arrives is its number; one that arrives later is not
    4096 or more below it. -/
private theorem rank_of_late (hlate : (arrivals es).Pairwise fun b a =>
      b.superframe < a.superframe + 4096)
    {pre post : List (Event (ℕ × ℕ))} {a : Arrival (ℕ × ℕ)}
    (hsplit : es = pre ++ .receiveFragment a :: post) :
    -4096 < T.base (arrivals es).head? + a.superframe ∧
      (arrivals pre = [] → 0 ≤ T.base (arrivals es).head? + a.superframe ∧
        T.base (arrivals es).head? + a.superframe < 2 ^ 16) := by
  have harrivals : arrivals es = arrivals pre ++ a :: arrivals post := by
    rw [hsplit, arrivals_append]
    rfl
  rw [harrivals] at hlate ⊢
  cases hpre : arrivals pre with
  | nil =>
    -- the call itself brings the first superframe
    have hself : T.base ([] ++ a :: arrivals post).head? + a.superframe =
        (T.number a.superframe).toNat := by
      show ((T.number a.superframe).toNat : ℤ) - a.superframe + a.superframe = _
      omega
    have hlt := (T.number a.superframe).toNat_lt
    rw [hself]
    omega
  | cons b rest =>
    rw [hpre] at hlate
    have hlt : b.superframe < a.superframe + 4096 :=
      (List.pairwise_append.mp hlate).2.2 b List.mem_cons_self a List.mem_cons_self
    constructor
    · -- ranks count from the number of `b`, which is not negative
      show -4096 < ((T.number b.superframe).toNat : ℤ) - b.superframe + a.superframe
      omega
    · intro hnil
      exact absurd hnil (by simp)

/-- **Run lemma.** -/
private theorem sequenced_run {base : ℤ} (hbase : (2 ^ 16 : ℤ) ∣ base - T.lSuperFrameNo.toNat)
    (hcondition : ∀ pre e post, es = pre ++ e :: post → ∀ a, e = .receiveFragment a →
      InSequence T base pre
        ((receiverMachine (ℕ × ℕ)).run (Traced.fresh (ℕ × ℕ) B H mode) pre) a) :
    Sequenced T base B H mode es
      ((receiverMachine (ℕ × ℕ)).run (Traced.fresh (ℕ × ℕ) B H mode) es) := by
  apply (receiverMachine (ℕ × ℕ)).run_history
    (I := fun pre s => Sequenced T base B H mode pre s)
    (C := fun pre e => ∀ a, e = .receiveFragment a → InSequence T base pre
      ((receiverMachine (ℕ × ℕ)).run (Traced.fresh (ℕ × ℕ) B H mode) pre) a)
  · exact
      { numbered := numbered_fresh T _ B H mode
        ranks := fun i b hb => absurd hb (by simp [Traced.fresh])
        owners := fun i b hb => absurd hb (by simp [Traced.fresh])
        started := fun _ => ⟨rfl, fun _ => rfl⟩ }
  · intro pre e hc hI
    exact Sequenced.step hbase hI hc
  · exact hcondition

/-- **`tooOldFragment` is said of superframes already opened**, when every fragment that arrives is
    in sequence: it does not have the rank `-1`, and a fragment that finds its slot free is less
    than `2 ^ 15` superframes away from the last one that did. -/
theorem tooOld_only_if_opened (hemitted : ∀ a ∈ arrivals es, T.Emits a)
    (hlate : (arrivals es).Pairwise fun b a => b.superframe < a.superframe + 4096)
    (hsteps : ∀ s a, (receiverMachine (ℕ × ℕ)).Takes (Traced.fresh (ℕ × ℕ) B H mode) es s
      (.receiveFragment a) → s.InSequence T (T.base (arrivals es).head?) a) :
    TooOldOnlyIfOpened B H mode es := by
  have hbase := T.base_dvd (arrivals es).head?
  have hcondition : ∀ pre e post, es = pre ++ e :: post → ∀ a, e = .receiveFragment a →
      InSequence T (T.base (arrivals es).head?) pre
        ((receiverMachine (ℕ × ℕ)).run (Traced.fresh (ℕ × ℕ) B H mode) pre) a := by
    rintro pre e post hsplit a rfl
    obtain ⟨habove, hfirst⟩ := rank_of_late (T := T) hlate hsplit
    have hmem : a ∈ arrivals es := by
      rw [mem_arrivals, hsplit]
      exact List.mem_append_right _ List.mem_cons_self
    exact ⟨hsteps _ a ⟨pre, post, hsplit, rfl⟩, hemitted a hmem, habove, hfirst⟩
  intro pre a post hsplit hmessage
  -- the invariant holds when the call is made
  have hpre : Sequenced T (T.base (arrivals es).head?) B H mode pre
      ((receiverMachine (ℕ × ℕ)).run (Traced.fresh (ℕ × ℕ) B H mode) pre) := by
    apply sequenced_run B H mode hbase
    intro pre' e post' hsplit'
    apply hcondition pre' e (post' ++ .receiveFragment a :: post)
    rw [hsplit, hsplit']
    simp
  exact hpre.of_tooOld hbase (hcondition pre _ post hsplit a rfl) hmessage

end Runs

/-! ## §5 Two runs -/

/-- The fragment of the first superframe arrives twice; the second time it is too old. -/
def twiceRun : List (Event (ℕ × ℕ)) :=
  [.receiveFragment (oneByteArrival 0 0), .receiveFragment (oneByteArrival 0 0)]

/-- `twiceRun` is in sequence. -/
theorem tooOld_only_if_opened_twice : TooOldOnlyIfOpened 100 0 .RUN_TO_COMPLETION twiceRun := by
  apply tooOld_only_if_opened (T := Transmission.oneByteEach 0)
  · decide +kernel
  · decide
  · intro s a htakes
    rw [twiceRun, Machine.takes_cons_iff, Machine.takes_cons_iff] at htakes
    have hrank : (Transmission.oneByteEach 0).base (arrivals twiceRun).head? = 0 := by
      decide +kernel
    rcases htakes with ⟨rfl, he⟩ | ⟨rfl, he⟩ | htakes
    · obtain rfl := Event.receiveFragment.inj he
      rw [hrank]
      exact ⟨fun _ c hc => absurd hc (by simp [Traced.fresh]), by decide, by decide⟩
    · obtain rfl := Event.receiveFragment.inj he
      rw [hrank]
      refine ⟨fun _ c hc => ?_, by decide, by decide⟩
      obtain rfl : oneByteArrival 0 0 = c := Option.some.inj hc
      decide
    · exact absurd htakes (Machine.not_takes_nil _)

/-- A receiver joins a stream that starts with the number 65535: the second superframe, number 0,
    arrives before the first. -/
def joinRun : List (Event (ℕ × ℕ)) :=
  [.receiveFragment (oneByteArrival 1 0), .receiveFragment (oneByteArrival 0 65535)]

/-- In `joinRun` the first superframe is refused as too old; no fragment of it arrived before. -/
theorem not_tooOld_only_if_opened_join :
    ¬ ∀ (T : Transmission) (es : List (Event (ℕ × ℕ))), (∀ a ∈ arrivals es, T.Emits a) →
      (arrivals es).IsChain (fun a b => |(a.superframe : ℤ) - b.superframe| < 4096) →
      (arrivals es).Pairwise (fun b a => b.superframe < a.superframe + 4096) →
      TooOldOnlyIfOpened 100 0 .RUN_TO_COMPLETION es := by
  intro h
  have hjoin := h (Transmission.oneByteEach 65535) joinRun (by decide +kernel) (by decide)
    (by decide)
  have htooOld : (((receiverMachine (ℕ × ℕ)).run (Traced.fresh (ℕ × ℕ) 100 0 .RUN_TO_COMPLETION)
      [.receiveFragment (oneByteArrival 1 0)]).step
        (.receiveFragment (oneByteArrival 0 65535))).2.message = some .tooOldFragment := by
    decide +kernel
  obtain ⟨s, a, htakes, hsame, -⟩ :=
    hjoin [.receiveFragment (oneByteArrival 1 0)] (oneByteArrival 0 65535) [] rfl htooOld
  rw [Machine.takes_cons_iff] at htakes
  rcases htakes with ⟨-, he⟩ | htakes
  · -- the only call before is about the other superframe
    obtain rfl := Event.receiveFragment.inj he
    exact absurd hsame (by decide)
  · exact absurd htakes (Machine.not_takes_nil _)

end ElasticFrame
