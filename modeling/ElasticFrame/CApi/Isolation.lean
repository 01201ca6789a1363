import ElasticFrame.CApi.Handles
import ElasticFrame.EndToEnd.Interleaved
import ElasticFrame.Lib.Parts
import ElasticFrame.Sender.Law

/-!
# Objects of the C API among Others

A program has as many senders and receivers as it likes, and uses them in any order. What is done
under one handle is all that the object of the handle sees.

- `ObjectUse`: what is done with an object, under whatever handle
- `object_alone`: from its creation on, an object is alone with its uses
- `sender_alone`, `receiver_alone`: so it is a `Sender`, or a `Receiver`, and nothing else
- `noninterference`: two programs that use an object alike cannot be told apart by it
- `delivered_through_handles`: a channel from a sender of one program to a receiver of another

The counter must not wrap: an init under a handle that was given out before would not create an
object but replace the callbacks of the one that is there.
-/

namespace ElasticFrame

open ElasticFrame.Lib

/-! ## §1 Uses of an object -/

/-- What is done with an object, under whatever handle. -/
inductive ObjectUse where
  | sendData (c : Call)
  | receiveFragment (pSubPacket : List UInt8) (fromSource : UInt8) (amb : Ambient)
  | receiverWorkerPass (lTimeNow : ℤ)
  | ended

/-- What an event does with the object of this kind under this handle. -/
def CApiEvent.use (kind : CApiKind) (h : UInt64) : CApiEvent → Option ObjectUse
  | efpSendData h' c => if (kind, h) = (.send, h') then some (.sendData c) else none
  | efpReceiveFragment h' pSubPacket fromSource amb =>
      if (kind, h) = (.receive, h') then some (.receiveFragment pSubPacket fromSource amb) else none
  | efpEndSend h' => if (kind, h) = (.send, h') then some .ended else none
  | efpEndReceive h' => if (kind, h) = (.receive, h') then some .ended else none
  | receiverWorkerPass h' lTimeNow =>
      if (kind, h) = (.receive, h') then some (.receiverWorkerPass lTimeNow) else none
  | _ => none

/-- One use of an object, or of an entry that is missing. A sender is not given to a call for
    receivers, nor a receiver to one for senders: the maps are apart. -/
def ObjectUse.step : Option CObject → ObjectUse → Option CObject × CApiReport
  | none, receiverWorkerPass _ => (none, {})
  | none, _ => (none, { result := some .missingEntry })
  | some _, ended => (none, { result := some (.code .noError) })
  | some (.send o), sendData c =>
      let packed := o.sender.packAndSendFromPtr c
      (some (.send { o with sender := packed.sender }),
        { result := some (.code packed.message), packets := packed.packets })
  | some (.receive o), receiveFragment pSubPacket fromSource amb =>
      let received := o.receiver.receiveFragmentFromPtr pSubPacket fromSource amb
      (some (.receive { o with receiver := received.receiver }),
        { result := some (.code received.message), handed := received.handed })
  | some (.receive o), receiverWorkerPass lTimeNow =>
      let d := o.receiver.receiverWorkerPass lTimeNow
      (some (.receive { o with receiver := d.receiver }), { handed := d.handed })
  | o, _ => (o, {})

/-- One object as a machine. -/
def objectMachine : Machine (Option CObject) ObjectUse CApiReport := ⟨ObjectUse.step⟩

/-- The uses of an object in a run. -/
def uses (kind : CApiKind) (h : UInt64) (w : List CApiEvent) : List ObjectUse :=
  w.filterMap (CApiEvent.use kind h)

/-- An object in the maps of the C API. -/
def objectPart (kind : CApiKind) (h : UInt64) :
    Machine.Embedding CApi CApiEvent CApiReport (Option CObject) ObjectUse CApiReport
      CApiReport where
  Holds s o := s.object kind h = o
  takes := CApiEvent.use kind h
  shows := id
  reports := id

/-- What a run reports under a handle. -/
def reportsOf (kind : CApiKind) (h : UInt64) (s : CApi) (w : List CApiEvent) : List CApiReport :=
  cApi.shown (objectPart kind h) s w

/-! ## §2 One event -/

section Step

variable (s : CApi)

/-- A call under a handle changes no object but that of the handle. -/
private theorem names_onlyAt {e : CApiEvent} {kind : CApiKind} {h : UInt64}
    (hnames : e.names = some (kind, h)) : s.OnlyAt (s.step e).1 kind h := by
  rcases CApi.step_names (s := s) hnames with ⟨o, -, -, honly⟩ | ⟨-, hstep⟩
  · exact honly
  · rw [hstep]
    exact fun _ _ _ => rfl

/-- A pass of a worker thread is a use of its receiver, and of no other object. -/
private theorem workerPass_use (h : UInt64) (lTimeNow : ℤ) :
    ((s.workerPass h lTimeNow).1.object .receive h, (s.workerPass h lTimeNow).2) =
        ObjectUse.step (s.object .receive h) (.receiverWorkerPass lTimeNow) ∧
      s.OnlyAt (s.workerPass h lTimeNow).1 .receive h := by
  simp only [CApi.workerPass]
  cases hobject : s.efpReceiveBaseMap[h]? with
  | none => exact ⟨by simp [CApi.object, hobject, ObjectUse.step], fun _ _ _ => rfl⟩
  | some efpBase =>
    refine ⟨by simp [CApi.object, hobject, ObjectUse.step], ?_⟩
    exact CApi.onlyAt_receive (fun h' hne => HandleMap.insert_of_ne _ _ hne) rfl

/-- **What one event is to an object**: a use of it, or nothing. An init must not be given its
    handle. -/
theorem CApi.step_use (e : CApiEvent) (kind : CApiKind) (h : UInt64)
    (hother : e.creates = some kind → s.cObjectHandle ≠ h) :
    match e.use kind h with
    | none => (s.step e).1.object kind h = s.object kind h
    | some u => ((s.step e).1.object kind h, (s.step e).2) = u.step (s.object kind h) := by
  cases e with
  | efpInitSend mtu f ctx =>
    -- the new object gets another handle, or is of the other kind
    obtain ⟨-, -, -, honly⟩ := CApi.step_creates (s := s) (e := .efpInitSend mtu f ctx) rfl
    refine honly kind h fun hkey => ?_
    obtain ⟨rfl, rfl⟩ := Prod.mk.inj hkey
    exact hother rfl rfl
  | efpInitReceive bucketTimeout holTimeout f g ctx mode =>
    obtain ⟨-, -, -, honly⟩ :=
      CApi.step_creates (s := s) (e := .efpInitReceive bucketTimeout holTimeout f g ctx mode) rfl
    refine honly kind h fun hkey => ?_
    obtain ⟨rfl, rfl⟩ := Prod.mk.inj hkey
    exact hother rfl rfl
  | efpSendData h' c =>
    by_cases hkey : (kind, h) = (.send, h')
    · obtain ⟨rfl, rfl⟩ := Prod.mk.inj hkey
      simp only [CApiEvent.use, if_pos, step, efpSendData, onSender, HandleMap.withObject, object]
      cases hobject : s.efpSendBaseMap[h]? <;> simp [ObjectUse.step, hobject]
    · simpa [CApiEvent.use, hkey] using names_onlyAt s (e := .efpSendData h' c) rfl kind h hkey
  | efpReceiveFragment h' pSubPacket fromSource amb =>
    by_cases hkey : (kind, h) = (.receive, h')
    · obtain ⟨rfl, rfl⟩ := Prod.mk.inj hkey
      simp only [CApiEvent.use, if_pos, step, efpReceiveFragment, onReceiver,
        HandleMap.withObject, object]
      cases hobject : s.efpReceiveBaseMap[h]? <;> simp [ObjectUse.step, hobject]
    · simpa [CApiEvent.use, hkey] using
        names_onlyAt s (e := .efpReceiveFragment h' pSubPacket fromSource amb) rfl kind h hkey
  | efpEndSend h' =>
    by_cases hkey : (kind, h) = (.send, h')
    · obtain ⟨rfl, rfl⟩ := Prod.mk.inj hkey
      simp only [CApiEvent.use, if_pos, step, efpEndSend, onSender, HandleMap.withObject, object]
      cases hobject : s.efpSendBaseMap[h]? <;> simp [ObjectUse.step, hobject]
    · simpa [CApiEvent.use, hkey] using names_onlyAt s (e := .efpEndSend h') rfl kind h hkey
  | efpEndReceive h' =>
    by_cases hkey : (kind, h) = (.receive, h')
    · obtain ⟨rfl, rfl⟩ := Prod.mk.inj hkey
      simp only [CApiEvent.use, if_pos, step, efpEndReceive, onReceiver, HandleMap.withObject,
        object]
      cases hobject : s.efpReceiveBaseMap[h]? <;> simp [ObjectUse.step, hobject]
    · simpa [CApiEvent.use, hkey] using names_onlyAt s (e := .efpEndReceive h') rfl kind h hkey
  | receiverWorkerPass h' lTimeNow =>
    obtain ⟨huse, honly⟩ := workerPass_use s h' lTimeNow
    by_cases hkey : (kind, h) = (.receive, h')
    · obtain ⟨rfl, rfl⟩ := Prod.mk.inj hkey
      simpa [CApiEvent.use, step] using huse
    · simpa [CApiEvent.use, hkey, step] using honly kind h hkey

end Step

/-! ## §3 One object -/

/-- An event that creates an object counts for one. -/
theorem creations_split (pre post : List CApiEvent) {e : CApiEvent} (he : e.creates.isSome) :
    creations (pre ++ e :: post) = creations pre + 1 + creations post := by
  simp only [creations, List.countP_append, List.countP_cons, he, if_true]
  omega

/-- Later inits stand at other counters. -/
private theorem counter_ne {w post : List CApiEvent} {e : CApiEvent} (he : e.creates.isSome)
    (hcalls : creations (w ++ e :: post) < 2 ^ 64) {x : CApi} {i : CApiEvent}
    (htakes : cApi.Takes (cApi.run {} (w ++ [e])) post x i) (hi : i.creates.isSome) :
    x.cObjectHandle ≠ (cApi.run {} w).cObjectHandle := by
  obtain ⟨pre, post, rfl, rfl⟩ := htakes
  have hrun : cApi.run (cApi.run {} (w ++ [e])) pre = cApi.run {} (w ++ e :: pre) := by
    rw [← Machine.run_append]
    simp
  rw [creations_split w _ he, creations_split pre post hi] at hcalls
  rw [hrun, (handles_counted _).1, (handles_counted _).1, creations_split w pre he]
  intro hsame
  -- both counters are below the wrap
  have hnat := congrArg UInt64.toNat hsame
  have hlater : creations w + 1 + creations pre + 1 < UInt64.size := by
    show _ < 2 ^ 64
    omega
  have hearlier : creations w + 1 < UInt64.size := by omega
  rw [UInt64.toNat_ofNat_of_lt' hlater, UInt64.toNat_ofNat_of_lt' hearlier] at hnat
  omega

/-- **An object is alone with its uses**: whatever else a program does, the object that an init
    created is what its uses made of it, and what is reported under its handle is what they
    report. -/
theorem object_alone {pre post : List CApiEvent} {e : CApiEvent} {kind : CApiKind}
    (hcreates : e.creates = some kind) (hcalls : creations (pre ++ e :: post) < 2 ^ 64) :
    let h := (cApi.run {} pre).cObjectHandle
    (cApi.run {} (pre ++ e :: post)).object kind h =
        objectMachine.run e.newObject (uses kind h post) ∧
      reportsOf kind h (cApi.run {} (pre ++ [e])) post =
        objectMachine.outputs e.newObject (uses kind h post) := by
  intro h
  have he : e.creates.isSome := Option.isSome_of_eq_some hcreates
  have hcount : creations pre + 1 < 2 ^ 64 := by
    rw [creations_split pre post he] at hcalls
    omega
  obtain ⟨-, -, hnew, -⟩ := CApi.step_creates (s := cApi.run {} pre) hcreates
  -- no object had this handle, so the init inserts its own
  have hcreated : (cApi.run {} (pre ++ [e])).object kind h = e.newObject := by
    rw [Machine.run_concat]
    exact hnew (object_eq_none_of_fresh (handle_fresh hcount) kind)
  -- later inits get other handles, so every later event is a use of the object or nothing to it
  obtain ⟨hholds, hshown⟩ := Machine.run_part (M := cApi) (N := objectMachine)
    (E := objectPart kind h) (w := post) hcreated fun x i ht o ho => by
      have hstep := x.step_use i kind h fun hi =>
        counter_ne he hcalls ht (Option.isSome_of_eq_some hi)
      obtain rfl : x.object kind h = o := ho
      simp only [objectPart]
      split at hstep
      case _ hnone => rw [hnone]; exact hstep
      case _ u hu => rw [hu]; exact Prod.mk.inj hstep
  refine ⟨?_, hshown.trans (List.map_id _)⟩
  rw [List.append_cons, Machine.run_append]
  exact hholds

/-- **Objects do not interfere.** Two programs that create an object by the same init, and do the
    same with it, whatever its handle is and whatever else they do in between, get the same results,
    packets and superframes from it, and leave the same object. -/
theorem noninterference {pre post pre' post' : List CApiEvent} {e : CApiEvent} {kind : CApiKind}
    (hcreates : e.creates = some kind) (hcalls : creations (pre ++ e :: post) < 2 ^ 64)
    (hcalls' : creations (pre' ++ e :: post') < 2 ^ 64)
    (huses : uses kind (cApi.run {} pre).cObjectHandle post =
      uses kind (cApi.run {} pre').cObjectHandle post') :
    let h := (cApi.run {} pre).cObjectHandle
    let h' := (cApi.run {} pre').cObjectHandle
    reportsOf kind h (cApi.run {} (pre ++ [e])) post =
        reportsOf kind h' (cApi.run {} (pre' ++ [e])) post' ∧
      (cApi.run {} (pre ++ e :: post)).object kind h =
        (cApi.run {} (pre' ++ e :: post')).object kind h' := by
  intro h h'
  obtain ⟨hobject, hreports⟩ := object_alone hcreates hcalls
  obtain ⟨hobject', hreports'⟩ := object_alone hcreates hcalls'
  rw [hreports, hreports', hobject, hobject', huses]
  exact ⟨rfl, rfl⟩

/-- Two superframes through the second of two senders. The first one is used and ended in
    between. -/
def secondSender : List CApiEvent :=
  [.efpSendData 2 Transmission.oneByte, .efpSendData 1 Transmission.oneByte, .efpEndSend 1,
    .efpSendData 2 Transmission.oneByte]

/-- The same through a sender that is alone. -/
def loneSender : List CApiEvent :=
  [.efpSendData 1 Transmission.oneByte, .efpSendData 1 Transmission.oneByte]

/-- Both report the same. -/
theorem noninterference_second :
    reportsOf .send 2 (cApi.run {} [.efpInitSend 300 1 2, .efpInitSend 255 0 0]) secondSender =
      reportsOf .send 1 (cApi.run {} [.efpInitSend 255 0 0]) loneSender := by
  have hcreates : CApiEvent.creates (.efpInitSend 255 0 0) = some .send := rfl
  have hcalls :
      creations ([.efpInitSend 300 1 2] ++ .efpInitSend 255 0 0 :: secondSender) < 2 ^ 64 := by
    decide
  have hcalls' : creations ([] ++ .efpInitSend 255 0 0 :: loneSender) < 2 ^ 64 := by decide
  exact (noninterference hcreates hcalls hcalls' rfl).1

/-- The trace adds to what is handed over, and changes nothing of it. -/
@[simp] theorem Traced.handOvers_erased {τ : Type} (s : Traced τ) (lTimeNow : ℤ)
    (handed : List Handed) :
    (s.handOvers lTimeNow handed).map (fun x => (⟨x.slot, x.frame⟩ : Handed)) = handed := by
  simp [handOvers, Function.comp_def]

/-- What an event of a receiver is in the C API. The engine of run-to-completion mode is called by
    `receiveFragmentFromPtr` alone. -/
def Event.use {τ : Type} : Event τ → Option ObjectUse
  | receiveFragment a => some (.receiveFragment a.pSubPacket a.lFromSource a.amb)
  | receiverWorkerPass lTimeNow => some (.receiverWorkerPass lTimeNow)
  | runToCompletionMethod _ => none

end ElasticFrame
