import ElasticFrame.EndToEnd.Interleaved

/-!
# What a Call Returns

Within the bounds of a channel a call returns `noError`, `duplicatePacketReceived` or
`tooOldFragment`, and these say where the fragment is: it was taken up, it had come before, or its
superframe was handed over. So whoever counts the results knows which superframes came whole.

- `expectedMessage`: the result that a fragment should get
- `results_among_passes`: every call returns it
- `whole_iff_counted`: a superframe is unbroken when all of its fragments were taken up
-/

namespace ElasticFrame

open ElasticFrame.Lib

/-! ## §1 The result that a fragment should get -/

instance (hs : List (HandOver (ℕ × ℕ))) (k : ℕ) : Decidable (HandedOut hs k) :=
  inferInstanceAs (Decidable (∃ x ∈ hs, x.superframe = some k))

/-- The superframe was handed over, or the fragment came before, or neither. -/
def expectedMessage (hs : List (HandOver (ℕ × ℕ))) (as : List (Arrival (ℕ × ℕ)))
    (a : Arrival (ℕ × ℕ)) : ElasticFrameMessages :=
  if HandedOut hs a.superframe then .tooOldFragment
  else if a.label ∈ as.map Arrival.label then .duplicatePacketReceived
  else .noError

/-- Calls of one label have one packet. -/
theorem Transmission.Emits.packet_eq {T : Transmission} {a b : Arrival (ℕ × ℕ)} (ha : T.Emits a)
    (hb : T.Emits b) (hlabel : b.label = a.label) : b.pSubPacket = a.pSubPacket := by
  rw [Transmission.Emits, hlabel] at hb
  exact Option.some.inj (hb.symm.trans ha)

/-- Calls of one superframe with one fragment have one label. -/
theorem Transmission.Emits.label_eq {T : Transmission} {a b : Arrival (ℕ × ℕ)} {f : Fragment}
    (ha : T.Emits a) (hb : T.Emits b) (hsame : b.superframe = a.superframe)
    (hpacket : Fragment.ofPacket a.pSubPacket = some f)
    (hpacket' : Fragment.ofPacket b.pSubPacket = some f) : b.label = a.label := by
  obtain ⟨g, hg, hread, -⟩ := ha.fragment
  obtain rfl := Option.some.inj (hread.symm.trans hpacket)
  obtain ⟨g', hg', hread', -⟩ := hb.fragment
  obtain rfl := Option.some.inj (hread'.symm.trans hpacket')
  rw [hsame] at hg'
  refine Prod.ext hsame ?_
  rw [← (T.parcel a.superframe).fragment_position hg, (T.parcel a.superframe).fragment_position hg']

/-- A superframe whose bucket is in use was not handed over. -/
theorem Kept.not_handedOut {N : ℕ} {as : List (Arrival (ℕ × ℕ))} {s : Traced (ℕ × ℕ)}
    {hs : List (HandOver (ℕ × ℕ))} (h : Kept N as s hs) {k : ℕ} (hheld : s.Holds k) :
    ¬ HandedOut hs k := by
  intro hhanded
  obtain ⟨-, -, -, hnot⟩ := h.released k hhanded
  exact hnot hheld

namespace Serving

variable {T : Transmission} {as : List (Arrival (ℕ × ℕ))} {s : Traced (ℕ × ℕ)}
  {hs : List (HandOver (ℕ × ℕ))} {a : Arrival (ℕ × ℕ)} {f : Fragment}

/-- A bucket in use knows which fragments of its superframe came. -/
theorem received_iff (h : Serving T as s hs) (ha : Admits T s a)
    (hpacket : Fragment.ofPacket a.pSubPacket = some f)
    (hactive : (s.receiver.mBucketList (ringSlot a.superframe)).mActive = true) :
    f.fragmentNo ∈ (s.receiver.mBucketList (ringSlot a.superframe)).mHaveReceivedFragment ↔
      a.label ∈ as.map Arrival.label := by
  obtain ⟨o, howner, hsame⟩ := ha.free hactive
  rw [List.mem_map]
  constructor
  · intro hdup
    have hmem := ha.accepted_of_received h.tracked h.recorded hpacket hactive hdup
    obtain ⟨b, hb, hpacket'⟩ := List.mem_filterMap.mp hmem
    obtain ⟨hb, hsame'⟩ := h.tracked.accepted_mem hactive howner hb
    have hemitted := h.tracked.emitted b hb
    exact ⟨b, hb, ha.emitted.label_eq hemitted (hsame'.trans hsame) hpacket hpacket'⟩
  · rintro ⟨b, hb, hlabel⟩
    have hsame' : b.superframe = a.superframe := congrArg Prod.fst hlabel
    have hpacket' : Fragment.ofPacket b.pSubPacket = some f := by
      rw [ha.emitted.packet_eq (h.tracked.emitted b hb) hlabel]
      exact hpacket
    -- the bucket collected it when it came
    have hheld : s.Holds b.superframe := by
      rw [hsame']
      exact ⟨hactive, o, howner, hsame⟩
    have hmem := h.kept.collected b hb hheld f hpacket'
    rw [hsame'] at hmem
    rw [(h.recorded _ hactive).1.received, List.mem_toFinset]
    exact List.mem_map_of_mem hmem

/-- **A call returns what its fragment should get.** -/
theorem message (h : Serving T as s hs) (hchannel : Channel T (as ++ [a]))
    (hfree : s.FreeFor a) (halloc : a.amb.allocates = true)
    (hpacket : Fragment.ofPacket a.pSubPacket = some f) (hlt : a.superframe + 1 < 2 ^ 64) :
    (s.receiver.unpackFragment f a.lFromSource a.amb).message = expectedMessage hs as a := by
  have hadmits := h.admits hchannel hfree
  have hslot := hadmits.slot h.tracked hpacket
  have hnumber := hadmits.emitted.number hpacket
  have hfits := h.tracked.fits h.recorded hadmits hpacket
  have hreceived := h.received_iff hadmits hpacket
  have hlate : ∀ b ∈ as, b.superframe < a.superframe + 8192 := by
    intro b hb
    have hbehind := hchannel.late_last b hb
    omega
  have hheld : (s.receiver.mBucketList (ringSlot a.superframe)).mActive = true →
      ¬ HandedOut hs a.superframe := fun hactive =>
    h.kept.not_handedOut ⟨hactive, hfree hactive⟩
  have houtcome := s.unpacked_outcome a f
  generalize (s.receiver.unpackFragment f a.lFromSource a.amb).message = message at houtcome ⊢
  generalize s.unpacked a f = s' at houtcome
  cases houtcome with
  | tooOld hidle hold =>
    rw [hslot] at hidle hold
    rw [hnumber, hadmits.rank hidle] at hold
    have hhanded := h.kept.of_stale h.tracked hlate (by decide)
      (fun hindex _ => orderOf_ne_max hindex) hidle hold (by omega)
    exact (if_pos hhanded).symm
  | refused _ _ _ hwhy _ =>
    -- there is memory, and the fragment is where its count says
    obtain ⟨f', -, hpacket', -, hplaced⟩ := hadmits.emitted.fragment
    obtain rfl := Option.some.inj (hpacket'.symm.trans hpacket)
    rw [halloc, hplaced] at hwhy
    simp at hwhy
  | opened hidle hnew _ _ =>
    rw [hslot] at hidle hnew
    rw [hnumber, hadmits.rank hidle] at hnew
    obtain ⟨hunseen, hearlier⟩ := h.kept.before_opening h.tracked hlate hnew
    have hnever : ¬ HandedOut hs a.superframe := by
      intro hhanded
      obtain ⟨o, howner, hle, -⟩ := h.kept.released _ hhanded
      exact absurd hle (Nat.not_le.mpr (hearlier o howner))
    have hfirst : a.label ∉ as.map Arrival.label := by
      intro hmem
      obtain ⟨b, hb, hlabel⟩ := List.mem_map.mp hmem
      exact hunseen b hb (congrArg Prod.fst hlabel)
    rw [expectedMessage, if_neg hnever, if_neg hfirst]
  | outOfResources hactive hother => exact absurd (hfits hactive).1 hother
  | outOfBounds hactive _ hbad =>
    rcases hbad with hbad | hbad
    · exact absurd (hfits hactive).2.1 (UInt16.not_le.mpr hbad)
    · exact absurd (hfits hactive).2.2 hbad
  | duplicate hactive _ hdup =>
    rw [hslot] at hactive hdup
    rw [expectedMessage, if_neg (hheld hactive), if_pos ((hreceived hactive).mp hdup)]
  | added hactive _ _ _ hnew =>
    rw [hslot] at hactive hnew
    rw [expectedMessage, if_neg (hheld hactive), if_neg (mt (hreceived hactive).mpr hnew)]

end Serving

/-! ## §2 Every run -/

section Runs

variable {T : Transmission} {B H : UInt32} {mode : EFPReceiverMode} {es : List (Event (ℕ × ℕ))}
  {a : Arrival (ℕ × ℕ)} {e : Event (ℕ × ℕ)}

/-- The last call of a run. -/
theorem Interleaved.message (h : Interleaved T B H mode (es ++ [.receiveFragment a]))
    (hlt : a.superframe + 1 < 2 ^ 64) :
    (((receiverMachine (ℕ × ℕ)).run (.fresh (ℕ × ℕ) B H mode) es).step
      (.receiveFragment a)).2.message =
        some (expectedMessage (handOvers B H mode es) (arrivals es) a) := by
  have hserving := h.of_append.serving
  have hfree := h.free _ a (Machine.takes_last _ _ _ _)
  have hchannel := h.channel
  have halloc := h.allocates
  rw [arrivals_append] at hchannel halloc
  obtain ⟨f, hpacket, -⟩ := (hserving.admits hchannel hfree).fragment
  rw [(Traced.step_of_fragment (configured_run B H mode es).running hpacket).2.1]
  exact congrArg some
    (hserving.message hchannel hfree (forall_concat.mp halloc).2 hpacket hlt)

/-- **The results tell the truth.** Whatever a channel loses, repeats or reorders within its bounds,
    and whatever passes are made between its calls: a call returns `tooOldFragment` exactly when
    its superframe was handed over, `duplicatePacketReceived` exactly when it was not and the same
    fragment came before, and `noError` otherwise. -/
theorem results_among_passes (h : Interleaved T B H mode es) {pre post : List (Event (ℕ × ℕ))}
    (hsplit : es = pre ++ .receiveFragment a :: post) (hlt : a.superframe + 1 < 2 ^ 64) :
    (((receiverMachine (ℕ × ℕ)).run (.fresh (ℕ × ℕ) B H mode) pre).step
      (.receiveFragment a)).2.message =
        some (expectedMessage (handOvers B H mode pre) (arrivals pre) a) := by
  rw [hsplit, List.append_cons] at h
  exact h.of_append.message hlt

/-- The last call of `interleavedRun` comes after its superframe was handed over. -/
theorem results_among_passes_waiting :
    (((receiverMachine (ℕ × ℕ)).run (.fresh (ℕ × ℕ) 100 50 .THREADED)
      (interleavedRun.take 4)).step (.receiveFragment (oneByteArrival 1 1))).2.message =
        some (expectedMessage (handOvers 100 50 .THREADED (interleavedRun.take 4))
          (arrivals (interleavedRun.take 4)) (oneByteArrival 1 1)) :=
  results_among_passes interleavedRun_interleaved
    (rfl : interleavedRun = interleavedRun.take 4 ++ [.receiveFragment (oneByteArrival 1 1)])
    (by decide)

/-! ## §3 Counting the results -/

/-- The call of an event, when its fragment was taken up. -/
def Report.takenUp {τ : Type} (o : Report τ) : Event τ → Option (Arrival τ)
  | .receiveFragment a => if o.message = some .noError then some a else none
  | _ => none

variable (B H mode es) in
/-- The calls of a run that returned `noError`. -/
def takenUp : List (Arrival (ℕ × ℕ)) :=
  (es.zip ((receiverMachine (ℕ × ℕ)).outputs (.fresh (ℕ × ℕ) B H mode) es)).filterMap
    fun p => p.2.takenUp p.1

theorem takenUp_concat : takenUp B H mode (es ++ [e]) = takenUp B H mode es ++
    ((((receiverMachine (ℕ × ℕ)).run (.fresh (ℕ × ℕ) B H mode) es).step e).2.takenUp e).toList := by
  have hlength : es.length =
      ((receiverMachine (ℕ × ℕ)).outputs (.fresh (ℕ × ℕ) B H mode) es).length :=
    ((receiverMachine _).outputs_length _ _).symm
  rw [takenUp, Machine.outputs_concat, List.zip_append hlength, List.filterMap_append, takenUp]
  rfl

/-- What is known of one superframe from the calls that were taken up. -/
structure Counted (T : Transmission) (k : ℕ) (as up : List (Arrival (ℕ × ℕ)))
    (hs : List (HandOver (ℕ × ℕ))) : Prop where
  came : ∀ b ∈ up, b ∈ as
  once : ((up.filter fun b => b.superframe = k).map fun b => b.label.2).Nodup
  /-- Until the superframe is handed over, each of its fragments that came was taken up. -/
  all : ¬ HandedOut hs k → ∀ a ∈ as, a.superframe = k → a.label ∈ up.map Arrival.label
  whole : ∀ x ∈ hs, x.superframe = some k →
    (x.frame.mBroken = false ↔ ∀ j < (T.packets k).length, (k, j) ∈ up.map Arrival.label)

namespace Counted

variable {k : ℕ} {as up : List (Arrival (ℕ × ℕ))} {hs hs' : List (HandOver (ℕ × ℕ))}

/-- A call that is not taken up. -/
theorem passedOver (h : Counted T k as up hs)
    (hwhy : a.superframe = k → HandedOut hs k ∨ a.label ∈ as.map Arrival.label) :
    Counted T k (as ++ [a]) up hs where
  came := fun b hb => List.mem_append_left _ (h.came b hb)
  once := h.once
  all := by
    intro hnever
    refine forall_concat.mpr ⟨h.all hnever, fun hsame => ?_⟩
    obtain ⟨b, hb, hlabel⟩ := List.mem_map.mp ((hwhy hsame).resolve_left hnever)
    rw [← hlabel]
    exact h.all hnever b hb ((congrArg Prod.fst hlabel).trans hsame)
  whole := h.whole

/-- A call that is taken up. -/
theorem takenUp (h : Counted T k as up hs)
    (hwhy : a.superframe = k → ¬ HandedOut hs k ∧ a.label ∉ as.map Arrival.label) :
    Counted T k (as ++ [a]) (up ++ [a]) hs where
  came := forall_concat.mpr ⟨fun b hb => List.mem_append_left _ (h.came b hb), mem_concat_self⟩
  once := by
    rw [List.filter_append, List.map_append]
    rcases eq_or_ne a.superframe k with hsame | hother
    · rw [List.filter_cons_of_pos (by simpa using hsame), List.filter_nil, List.map_singleton]
      refine List.nodup_append.mpr ⟨h.once, List.nodup_singleton _, ?_⟩
      -- the position is new, or the fragment had come before
      rintro p hp q hq rfl
      obtain ⟨b, hb, hposition⟩ := List.mem_map.mp hp
      obtain ⟨hb, hsuperframe⟩ := List.mem_filter.mp hb
      rw [List.mem_singleton.mp hq] at hposition
      refine (hwhy hsame).2 (List.mem_map.mpr ⟨b, h.came b hb, Prod.ext ?_ hposition⟩)
      exact (of_decide_eq_true hsuperframe).trans hsame.symm
    · rw [List.filter_cons_of_neg (by simpa using hother), List.filter_nil, List.map_nil,
        List.append_nil]
      exact h.once
  all := by
    intro hnever
    rw [List.map_append, List.map_singleton]
    exact forall_concat.mpr ⟨fun b hb hsame => List.mem_append_left _ (h.all hnever b hb hsame),
      fun _ => List.mem_append_right _ (List.mem_singleton_self _)⟩
  whole := by
    intro x hx hk
    have hother : a.superframe ≠ k := fun hsame => (hwhy hsame).1 ⟨x, hx, hk⟩
    refine (h.whole x hx hk).trans (forall₂_congr fun j _ => ?_)
    rw [List.map_append, List.mem_append]
    refine (or_iff_left fun hmem => hother ?_).symm
    rw [Arrival.superframe, ← List.mem_singleton.mp hmem]

/-- A call that returns what its fragment should get. -/
theorem call (h : Counted T k as up hs) {o : Report (ℕ × ℕ)}
    (hmessage : a.superframe = k → o.message = some (expectedMessage hs as a)) :
    Counted T k (as ++ [a]) (up ++ (o.takenUp (.receiveFragment a)).toList) hs := by
  rcases eq_or_ne (o.message) (some .noError) with htaken | hnot
  · rw [Report.takenUp, if_pos htaken]
    refine h.takenUp fun hsame => ?_
    have hexpected := Option.some.inj (htaken.symm.trans (hmessage hsame))
    rw [expectedMessage, hsame] at hexpected
    constructor
    · intro hhanded
      rw [if_pos hhanded] at hexpected
      exact absurd hexpected (by decide)
    · intro hbefore
      rw [if_pos hbefore] at hexpected
      split at hexpected <;> exact absurd hexpected (by decide)
  · rw [Report.takenUp, if_neg hnot, Option.toList_none, List.append_nil]
    refine h.passedOver fun hsame => ?_
    rw [hmessage hsame, expectedMessage, hsame] at hnot
    by_contra hneither
    rw [not_or] at hneither
    rw [if_neg hneither.1, if_neg hneither.2] at hnot
    exact hnot rfl

/-- A pass. -/
theorem pass (h : Counted T k as up hs)
    (hnew : ∀ x ∈ hs', x.superframe = some k → ¬ HandedOut hs k ∧
      (x.frame.mBroken = false ↔ T.Received as k)) :
    Counted T k as up (hs ++ hs') where
  came := h.came
  once := h.once
  all := fun hnever => h.all fun hbefore => hnever (HandedOut.append.mpr (Or.inl hbefore))
  whole := by
    intro x hx hk
    rcases List.mem_append.mp hx with hx | hx
    · exact h.whole x hx hk
    · -- what came of the superframe up to the pass was taken up
      obtain ⟨hnever, hwhole⟩ := hnew x hx hk
      refine hwhole.trans (forall₂_congr fun j _ => ?_)
      constructor
      · rintro ⟨b, hb, hlabel⟩
        rw [← hlabel]
        exact h.all hnever b hb (congrArg Prod.fst hlabel)
      · intro hmem
        obtain ⟨b, hb, hlabel⟩ := List.mem_map.mp hmem
        exact ⟨b, h.came b hb, hlabel⟩

/-- The superframe is unbroken when as many of its fragments were taken up as it has. -/
theorem whole_iff (h : Counted T k as up hs) (hemitted : ∀ a ∈ as, T.Emits a) :
    (up.filter fun b => b.superframe = k).length ≤ (T.packets k).length ∧
      ((∀ j < (T.packets k).length, (k, j) ∈ up.map Arrival.label) ↔
        (up.filter fun b => b.superframe = k).length = (T.packets k).length) := by
  set js := (up.filter fun b => b.superframe = k).map fun b => b.label.2 with hjs
  have hlength : (up.filter fun b => b.superframe = k).length = js.toFinset.card := by
    rw [List.toFinset_card_of_nodup h.once, List.length_map]
  have hmem : ∀ j, j ∈ js.toFinset ↔ (k, j) ∈ up.map Arrival.label := by
    intro j
    simp only [hjs, List.mem_toFinset, List.mem_map, List.mem_filter, decide_eq_true_eq]
    constructor
    · rintro ⟨b, ⟨hb, hsame⟩, rfl⟩
      exact ⟨b, hb, Prod.ext hsame rfl⟩
    · rintro ⟨b, hb, hlabel⟩
      exact ⟨b, ⟨hb, congrArg Prod.fst hlabel⟩, congrArg Prod.snd hlabel⟩
  have hbound : js.toFinset ⊆ Finset.range (T.packets k).length := by
    intro j hj
    obtain ⟨b, hb, hlabel⟩ := List.mem_map.mp ((hmem j).mp hj)
    have hpacket := hemitted b (h.came b hb)
    rw [Transmission.Emits, hlabel] at hpacket
    exact Finset.mem_range.mpr (List.getElem?_eq_some_iff.mp hpacket).1
  have hle := Finset.card_le_card hbound
  rw [Finset.card_range] at hle
  rw [hlength]
  refine ⟨hle, ?_⟩
  constructor
  · intro hevery
    refine le_antisymm hle ?_
    have hcover : Finset.range (T.packets k).length ⊆ js.toFinset := fun j hj =>
      (hmem j).mpr (hevery j (Finset.mem_range.mp hj))
    have hge := Finset.card_le_card hcover
    rwa [Finset.card_range] at hge
  · intro hcard j hj
    rw [← hmem, Finset.eq_of_subset_of_card_le hbound (by rw [Finset.card_range, hcard])]
    exact Finset.mem_range.mpr hj

end Counted

/-- **Run lemma.** -/
theorem Interleaved.counted (h : Interleaved T B H mode es) {k : ℕ} (hlt : k + 1 < 2 ^ 64) :
    Counted T k (arrivals es) (takenUp B H mode es) (handOvers B H mode es) := by
  induction es using List.reverseRecOn with
  | nil =>
    exact
      { came := nofun
        once := List.nodup_nil
        all := nofun
        whole := nofun }
  | append_singleton es e ih =>
    have hbefore := ih h.of_append
    have hserving := h.serving
    -- the call, and then the pass
    have hcalled : Counted T k (arrivals (es ++ [e])) (takenUp B H mode (es ++ [e]))
        (handOvers B H mode es) := by
      rw [takenUp_concat, arrivals_append]
      cases e with
      | receiveFragment a =>
        exact hbefore.call fun hsame => h.message (by rw [hsame]; exact hlt)
      | runToCompletionMethod lTimeNow =>
        exact (List.append_nil (arrivals es)).symm ▸ (List.append_nil _).symm ▸ hbefore
      | receiverWorkerPass lTimeNow =>
        exact (List.append_nil (arrivals es)).symm ▸ (List.append_nil _).symm ▸ hbefore
    have honce := hserving.once
    rw [handOvers_concat] at honce ⊢
    refine hcalled.pass fun x hx hk => ⟨?_, h.unbroken_iff hx hk⟩
    rintro ⟨y, hy, hsame⟩
    rw [List.map_append, List.nodup_append] at honce
    exact honce.2.2 _ (List.mem_map_of_mem hy) _ (List.mem_map_of_mem hx) (hsame.trans hk.symm)

/-- **Counting tells what came whole.** However often the fragments of a superframe come, at most
    as many are taken up as it has, and what is handed over is unbroken exactly when all were. -/
theorem whole_iff_counted (h : Interleaved T B H mode es) {k : ℕ} (hlt : k + 1 < 2 ^ 64) :
    ((takenUp B H mode es).filter fun a => a.superframe = k).length ≤ (T.packets k).length ∧
      ∀ x ∈ handOvers B H mode es, x.superframe = some k →
        (x.frame.mBroken = false ↔
          ((takenUp B H mode es).filter fun a => a.superframe = k).length =
            (T.packets k).length) := by
  have hcounted := h.counted hlt
  obtain ⟨hle, hwhole⟩ := hcounted.whole_iff h.channel.emitted
  exact ⟨hle, fun x hx hk => (hcounted.whole x hx hk).trans hwhole⟩

/-- The first superframe of `interleavedRun` has one fragment. -/
theorem whole_iff_counted_waiting :
    ((takenUp 100 50 .THREADED interleavedRun).filter fun a => a.superframe = 0).length ≤
        ((Transmission.oneByteEach 0).packets 0).length ∧
      ∀ x ∈ handOvers 100 50 .THREADED interleavedRun, x.superframe = some 0 →
        (x.frame.mBroken = false ↔
          ((takenUp 100 50 .THREADED interleavedRun).filter fun a => a.superframe = 0).length =
            ((Transmission.oneByteEach 0).packets 0).length) :=
  whole_iff_counted interleavedRun_interleaved (by decide)

end Runs

end ElasticFrame
