import ElasticFrame.Lib.Leases
import ElasticFrame.Receiver.Run
import ElasticFrame.Sender.Pack

/-!
# Handles of the C API

The C API keeps its senders and its receivers in two maps and gives a handle out for each. Both
kinds of handles come from one counter. Every call but the two that create an object looks its
handle up and takes `->second` of what it finds.

- `CApi`: the two maps and the counter; `CApi.step`: one call, or a pass of a worker thread
- `Live`: a handle that was given out and not ended since
- `Lawful`: what a call may do
- `calls_lawful_iff`: the calls of a sequence are lawful exactly when each of them names a live
  handle of its kind

`find` of a handle that is not in the map gives the iterator behind the last entry, and the test
for a null pointer comes after it was dereferenced. The model reports `missingEntry` there and
leaves the state as it is; what a program does from there on is undefined.
-/

namespace ElasticFrame

open ElasticFrame.Lib

/-! ## §1 The maps -/

/-- A sender of the C API, with the addresses of its callback and of its context. -/
structure SendObject where
  sender : Sender
  cSendCallback : ℕ
  mUnsafePointer : ℕ

/-- A receiver of the C API, with the addresses of its callbacks and of its context. -/
structure ReceiveObject where
  receiver : Receiver
  cReceiveCallback : ℕ
  cReceiveEmbeddedDataCallback : ℕ
  mUnsafePointer : ℕ

/-- The map of one kind. Every entry has an object. -/
abbrev HandleMap (α : Type) := Std.ExtTreeMap UInt64 α

/-- The global state of the C API. -/
structure CApi where
  efpSendBaseMap : HandleMap SendObject := ∅
  efpReceiveBaseMap : HandleMap ReceiveObject := ∅
  cObjectHandle : UInt64 := 1

/-- What a call returns. -/
inductive CApiResult where
  /-- The handle of a new object. -/
  | handle (efpObject : UInt64)
  /-- A result code, cast to `int16_t`. -/
  | code (message : ElasticFrameMessages)
  /-- Nothing: the end of a map was dereferenced. -/
  | missingEntry
  deriving DecidableEq, Repr

/-- What is seen of a call: its result, the packets that went to the send callback and the
    superframes that went to the receive callback. -/
structure CApiReport where
  result : Option CApiResult := none
  packets : List (List UInt8) := []
  handed : List Handed := []

def EFP_MODE_RUN_TO_COMPLETE : UInt32 := 2

/-- The calls, with what the world outside answers in them. Between two calls the worker thread of
    a receiver may make a pass. -/
inductive CApiEvent where
  | efpInitSend (mtu : UInt64) (f ctx : ℕ)
  | efpInitReceive (bucketTimeout holTimeout : UInt32) (f g ctx : ℕ) (mode : UInt32)
  | efpSendData (efpObject : UInt64) (c : Call)
  | efpReceiveFragment (efpObject : UInt64) (pSubPacket : List UInt8) (fromSource : UInt8)
      (amb : Ambient)
  | efpEndSend (efpObject : UInt64)
  | efpEndReceive (efpObject : UInt64)
  | receiverWorkerPass (efpObject : UInt64) (lTimeNow : ℤ)

/-! ## §2 The calls -/

/-- `find(efpObject)->second`, and what is done with the object. -/
def HandleMap.withObject {α : Type} (base : HandleMap α) (efpObject : UInt64)
    (act : α → HandleMap α × CApiReport) : HandleMap α × CApiReport :=
  match base[efpObject]? with
  | none => (base, { result := some .missingEntry })
  | some efpBase => act efpBase

namespace CApi

variable (s : CApi)

/-- `efp_init_send`. `insert` keeps an entry that is already there, and the callback is set in
    either case. -/
def efpInitSend (mtu : UInt64) (f ctx : ℕ) : CApi × CApiReport :=
  let localCObjectHandle := s.cObjectHandle
  let created : SendObject :=
    { sender := Sender.new mtu.toUInt16, cSendCallback := f, mUnsafePointer := ctx }
  let entry := (s.efpSendBaseMap[localCObjectHandle]?).getD created
  ({ s with
      efpSendBaseMap :=
        s.efpSendBaseMap.insert localCObjectHandle { entry with cSendCallback := f }
      cObjectHandle := s.cObjectHandle + 1 },
    { result := some (.handle localCObjectHandle) })

/-- `efp_init_receive`. Every mode but `EFP_MODE_RUN_TO_COMPLETE` is the threaded one. -/
def efpInitReceive (bucketTimeout holTimeout : UInt32) (f g ctx : ℕ) (mode : UInt32) :
    CApi × CApiReport :=
  let localCObjectHandle := s.cObjectHandle
  let receiveMode : EFPReceiverMode :=
    if mode = EFP_MODE_RUN_TO_COMPLETE then .RUN_TO_COMPLETION else .THREADED
  let created : ReceiveObject :=
    { receiver := Receiver.new bucketTimeout holTimeout receiveMode
      cReceiveCallback := f
      cReceiveEmbeddedDataCallback := g
      mUnsafePointer := ctx }
  let entry := (s.efpReceiveBaseMap[localCObjectHandle]?).getD created
  ({ s with
      efpReceiveBaseMap := s.efpReceiveBaseMap.insert localCObjectHandle
        { entry with cReceiveCallback := f, cReceiveEmbeddedDataCallback := g }
      cObjectHandle := s.cObjectHandle + 1 },
    { result := some (.handle localCObjectHandle) })

/-- A call on a sender leaves the other map and the counter. -/
def onSender (efpObject : UInt64)
    (act : SendObject → HandleMap SendObject × CApiReport) : CApi × CApiReport :=
  let out := s.efpSendBaseMap.withObject efpObject act
  ({ s with efpSendBaseMap := out.1 }, out.2)

/-- A call on a receiver leaves the other map and the counter. -/
def onReceiver (efpObject : UInt64)
    (act : ReceiveObject → HandleMap ReceiveObject × CApiReport) : CApi × CApiReport :=
  let out := s.efpReceiveBaseMap.withObject efpObject act
  ({ s with efpReceiveBaseMap := out.1 }, out.2)

/-- `efp_send_data`. -/
def efpSendData (efpObject : UInt64) (c : Call) : CApi × CApiReport :=
  s.onSender efpObject fun efpBase =>
    let packed := efpBase.sender.packAndSendFromPtr c
    (s.efpSendBaseMap.insert efpObject { efpBase with sender := packed.sender },
      { result := some (.code packed.message), packets := packed.packets })

/-- `efp_receive_fragment`. -/
def efpReceiveFragment (efpObject : UInt64) (pSubPacket : List UInt8) (fromSource : UInt8)
    (amb : Ambient) : CApi × CApiReport :=
  s.onReceiver efpObject fun efpBase =>
    let received := efpBase.receiver.receiveFragmentFromPtr pSubPacket fromSource amb
    (s.efpReceiveBaseMap.insert efpObject { efpBase with receiver := received.receiver },
      { result := some (.code received.message), handed := received.handed })

/-- `efp_end_send`. The entry was just found, so `erase` removes one. -/
def efpEndSend (efpObject : UInt64) : CApi × CApiReport :=
  s.onSender efpObject fun _ =>
    (s.efpSendBaseMap.erase efpObject, { result := some (.code .noError) })

/-- `efp_end_receive`. -/
def efpEndReceive (efpObject : UInt64) : CApi × CApiReport :=
  s.onReceiver efpObject fun _ =>
    (s.efpReceiveBaseMap.erase efpObject, { result := some (.code .noError) })

/-- A pass of `receiverWorker` in the thread of a receiver. A handle without a receiver has no
    thread. -/
def workerPass (efpObject : UInt64) (lTimeNow : ℤ) : CApi × CApiReport :=
  match s.efpReceiveBaseMap[efpObject]? with
  | none => (s, {})
  | some efpBase =>
    let d := efpBase.receiver.receiverWorkerPass lTimeNow
    ({ s with
        efpReceiveBaseMap :=
          s.efpReceiveBaseMap.insert efpObject { efpBase with receiver := d.receiver } },
      { handed := d.handed })

/-- One event. -/
def step : CApiEvent → CApi × CApiReport
  | .efpInitSend mtu f ctx => s.efpInitSend mtu f ctx
  | .efpInitReceive bucketTimeout holTimeout f g ctx mode =>
      s.efpInitReceive bucketTimeout holTimeout f g ctx mode
  | .efpSendData efpObject c => s.efpSendData efpObject c
  | .efpReceiveFragment efpObject pSubPacket fromSource amb =>
      s.efpReceiveFragment efpObject pSubPacket fromSource amb
  | .efpEndSend efpObject => s.efpEndSend efpObject
  | .efpEndReceive efpObject => s.efpEndReceive efpObject
  | .receiverWorkerPass efpObject lTimeNow => s.workerPass efpObject lTimeNow

end CApi

/-- The C API as a machine. -/
def cApi : Machine CApi CApiEvent CApiReport := ⟨CApi.step⟩

/-! ## §3 Live handles -/

/-- The two kinds of objects. -/
inductive CApiKind where
  | send
  | receive
  deriving DecidableEq, Repr

/-- An object of either kind. -/
inductive CObject where
  | send (o : SendObject)
  | receive (o : ReceiveObject)

/-- The object that a handle has in the map of a kind. -/
def CApi.object (s : CApi) : CApiKind → UInt64 → Option CObject
  | .send, h => (s.efpSendBaseMap[h]?).map .send
  | .receive, h => (s.efpReceiveBaseMap[h]?).map .receive

namespace CApiEvent

/-- The kind of object that a call creates. -/
def creates : CApiEvent → Option CApiKind
  | efpInitSend .. => some .send
  | efpInitReceive .. => some .receive
  | _ => none

/-- The handle that a call looks up, and in the map of which kind. -/
def names : CApiEvent → Option (CApiKind × UInt64)
  | efpSendData h _ => some (.send, h)
  | efpReceiveFragment h _ _ _ => some (.receive, h)
  | efpEndSend h => some (.send, h)
  | efpEndReceive h => some (.receive, h)
  | _ => none

/-- The handle that a call ends. -/
def ends : CApiEvent → Option (CApiKind × UInt64)
  | efpEndSend h => some (.send, h)
  | efpEndReceive h => some (.receive, h)
  | _ => none

/-- The handle that a call gives out. -/
def grants (e : CApiEvent) (o : CApiReport) : Option (CApiKind × UInt64) :=
  match e.creates, o.result with
  | some kind, some (.handle h) => some (kind, h)
  | _, _ => none

/-- The object that a call creates. -/
def newObject : CApiEvent → Option CObject
  | efpInitSend mtu f ctx =>
      some (.send
        { sender := Sender.new mtu.toUInt16, cSendCallback := f, mUnsafePointer := ctx })
  | efpInitReceive bucketTimeout holTimeout f g ctx mode =>
      some (.receive
        { receiver := Receiver.new bucketTimeout holTimeout
            (if mode = EFP_MODE_RUN_TO_COMPLETE then .RUN_TO_COMPLETION else .THREADED)
          cReceiveCallback := f
          cReceiveEmbeddedDataCallback := g
          mUnsafePointer := ctx })
  | _ => none

/-- What a call does to the object that it names, and what it reports: the method of the object, or
    its end. -/
def effect : CApiEvent → CObject → Option CObject × CApiReport
  | efpSendData _ c, .send o =>
      let packed := o.sender.packAndSendFromPtr c
      (some (.send { o with sender := packed.sender }),
        { result := some (.code packed.message), packets := packed.packets })
  | efpReceiveFragment _ pSubPacket fromSource amb, .receive o =>
      let received := o.receiver.receiveFragmentFromPtr pSubPacket fromSource amb
      (some (.receive { o with receiver := received.receiver }),
        { result := some (.code received.message), handed := received.handed })
  | efpEndSend _, _ => (none, { result := some (.code .noError) })
  | efpEndReceive _, _ => (none, { result := some (.code .noError) })
  | _, o => (some o, {})

end CApiEvent

/-- The handle was given out for this kind in the run, and not ended since. -/
def Live (w : List CApiEvent) (kind : CApiKind) (h : UInt64) : Prop :=
  cApi.HeldAfter CApiEvent.grants CApiEvent.ends {} w (kind, h)

/-- No other entry of the two maps differs. -/
def CApi.OnlyAt (s s' : CApi) (kind : CApiKind) (h : UInt64) : Prop :=
  ∀ kind' h', (kind', h') ≠ (kind, h) → s'.object kind' h' = s.object kind' h'

/-- What the event `e` may do after the events `w`. -/
structure Lawful (w : List CApiEvent) (e : CApiEvent) : Prop where
  /-- An init returns a handle that no init returned before, for a new object. -/
  created : ∀ kind, e.creates = some kind → ∃ h,
    (cApi.step (cApi.run {} w) e).2.result = some (.handle h) ∧
      (∀ o ∈ cApi.outputs {} w, o.result ≠ some (.handle h)) ∧
      (cApi.step (cApi.run {} w) e).1.object kind h = e.newObject ∧
      (cApi.run {} w).OnlyAt (cApi.step (cApi.run {} w) e).1 kind h
  /-- A call with a live handle acts on the object of the handle. -/
  live : ∀ kind h, e.names = some (kind, h) → Live w kind h → ∃ o,
    (cApi.run {} w).object kind h = some o ∧
      ((cApi.step (cApi.run {} w) e).1.object kind h, (cApi.step (cApi.run {} w) e).2) =
        e.effect o ∧
      (cApi.run {} w).OnlyAt (cApi.step (cApi.run {} w) e).1 kind h
  /-- A call with any other handle fails and changes nothing. -/
  stale : ∀ kind h, e.names = some (kind, h) → ¬ Live w kind h →
    (cApi.step (cApi.run {} w) e).2.result = some (.code .efpCAPIfailure) ∧
      (cApi.step (cApi.run {} w) e).1 = cApi.run {} w

/-! ## §4 What an event can do -/

/-- The ways through one event. -/
inductive CApiStep (s : CApi) (e : CApiEvent) : CApi × CApiReport → Prop where
  /-- An object is created under the handle that the counter stands at. -/
  | created (kind : CApiKind) (s' : CApi) (hcreates : e.creates = some kind)
      (hnames : e.names = none) (hends : e.ends = none)
      (hnew : s.object kind s.cObjectHandle = none →
        s'.object kind s.cObjectHandle = e.newObject)
      (hsome : (s'.object kind s.cObjectHandle).isSome)
      (honly : s.OnlyAt s' kind s.cObjectHandle)
      (hcounter : s'.cObjectHandle = s.cObjectHandle + 1) :
      CApiStep s e (s', { result := some (.handle s.cObjectHandle) })
  /-- The handle is in the map. -/
  | used (kind : CApiKind) (h : UInt64) (o : CObject) (s' : CApi) (report : CApiReport)
      (hcreates : e.creates = none) (hnames : e.names = some (kind, h))
      (hends : e.ends = if (e.effect o).1.isSome then none else some (kind, h))
      (hobject : s.object kind h = some o)
      (heffect : (s'.object kind h, report) = e.effect o) (honly : s.OnlyAt s' kind h)
      (hcounter : s'.cObjectHandle = s.cObjectHandle) : CApiStep s e (s', report)
  /-- The handle is not in the map, and the end of the map is dereferenced. -/
  | missing (kind : CApiKind) (h : UInt64) (hcreates : e.creates = none)
      (hnames : e.names = some (kind, h)) (hends : e.ends = none ∨ e.ends = some (kind, h))
      (hobject : s.object kind h = none) :
      CApiStep s e (s, { result := some .missingEntry })
  /-- A worker thread makes a pass. -/
  | pass (s' : CApi) (report : CApiReport) (hcreates : e.creates = none) (hnames : e.names = none)
      (hends : e.ends = none)
      (hobjects : ∀ kind h, (s'.object kind h).isSome = (s.object kind h).isSome)
      (hreport : report.result = none) (hcounter : s'.cObjectHandle = s.cObjectHandle) :
      CApiStep s e (s', report)

theorem HandleMap.insert_of_ne {α : Type} (base : HandleMap α) {h h' : UInt64} (o : α)
    (hne : h' ≠ h) : (base.insert h o)[h']? = base[h']? := by
  rw [Std.ExtTreeMap.getElem?_insert]
  simp [Ne.symm hne]

theorem HandleMap.erase_of_ne {α : Type} (base : HandleMap α) {h h' : UInt64} (hne : h' ≠ h) :
    (base.erase h)[h']? = base[h']? := by
  rw [Std.ExtTreeMap.getElem?_erase]
  simp [Ne.symm hne]

/-- One entry of the map of senders differs. -/
theorem CApi.onlyAt_send {s s' : CApi} {h : UInt64}
    (hsend : ∀ h' ≠ h, s'.efpSendBaseMap[h']? = s.efpSendBaseMap[h']?)
    (hreceive : s'.efpReceiveBaseMap = s.efpReceiveBaseMap) : s.OnlyAt s' .send h := by
  intro kind' h' hne
  cases kind' with
  | send =>
    have hne' : h' ≠ h := fun heq => hne (by rw [heq])
    rw [object, object, hsend h' hne']
  | receive => rw [object, object, hreceive]

/-- One entry of the map of receivers differs. -/
theorem CApi.onlyAt_receive {s s' : CApi} {h : UInt64}
    (hreceive : ∀ h' ≠ h, s'.efpReceiveBaseMap[h']? = s.efpReceiveBaseMap[h']?)
    (hsend : s'.efpSendBaseMap = s.efpSendBaseMap) : s.OnlyAt s' .receive h := by
  intro kind' h' hne
  cases kind' with
  | send => rw [object, object, hsend]
  | receive =>
    have hne' : h' ≠ h := fun heq => hne (by rw [heq])
    rw [object, object, hreceive h' hne']

section Objects

variable {s : CApi} {e : CApiEvent} {h : UInt64}

/-- **One call on a sender**: the handle is missing, or the call has its effect on the object. -/
theorem CApi.onSender_step {act : SendObject → HandleMap SendObject × CApiReport}
    (hcreates : e.creates = none) (hnames : e.names = some (.send, h))
    (hends : e.ends = none ∨ e.ends = some (.send, h))
    (hended : ∀ o, e.ends = if (e.effect (.send o)).1.isSome then none else some (.send, h))
    (heffect : ∀ o, ((act o).1[h]?.map .send, (act o).2) = e.effect (.send o))
    (hframe : ∀ o, ∀ h' ≠ h, (act o).1[h']? = s.efpSendBaseMap[h']?) :
    CApiStep s e (s.onSender h act) := by
  simp only [onSender, HandleMap.withObject]
  cases hobject : s.efpSendBaseMap[h]? with
  | none => exact .missing .send h hcreates hnames hends (by simp [object, hobject])
  | some o =>
    exact .used .send h (.send o) _ _ hcreates hnames (hended o) (by simp [object, hobject])
      (heffect o) (onlyAt_send (hframe o) rfl) rfl

/-- **One call on a receiver**, likewise. -/
theorem CApi.onReceiver_step {act : ReceiveObject → HandleMap ReceiveObject × CApiReport}
    (hcreates : e.creates = none) (hnames : e.names = some (.receive, h))
    (hends : e.ends = none ∨ e.ends = some (.receive, h))
    (hended : ∀ o, e.ends = if (e.effect (.receive o)).1.isSome then none else some (.receive, h))
    (heffect : ∀ o, ((act o).1[h]?.map .receive, (act o).2) = e.effect (.receive o))
    (hframe : ∀ o, ∀ h' ≠ h, (act o).1[h']? = s.efpReceiveBaseMap[h']?) :
    CApiStep s e (s.onReceiver h act) := by
  simp only [onReceiver, HandleMap.withObject]
  cases hobject : s.efpReceiveBaseMap[h]? with
  | none => exact .missing .receive h hcreates hnames hends (by simp [object, hobject])
  | some o =>
    exact .used .receive h (.receive o) _ _ hcreates hnames (hended o) (by simp [object, hobject])
      (heffect o) (onlyAt_receive (hframe o) rfl) rfl

end Objects

/-- **Nothing else happens.** -/
theorem CApi.step_cases (s : CApi) (e : CApiEvent) : CApiStep s e (s.step e) := by
  cases e with
  | efpInitSend mtu f ctx =>
    refine .created .send _ rfl rfl rfl (fun hfree => ?_) ?_ ?_ rfl
    · -- the entry is new, so it has the new object
      have hfree : s.efpSendBaseMap[s.cObjectHandle]? = none := by simpa [object] using hfree
      simp [object, hfree, CApiEvent.newObject]
    · simp [object]
    · exact onlyAt_send (fun h' hne => HandleMap.insert_of_ne _ _ hne) rfl
  | efpInitReceive bucketTimeout holTimeout f g ctx mode =>
    refine .created .receive _ rfl rfl rfl (fun hfree => ?_) ?_ ?_ rfl
    · have hfree : s.efpReceiveBaseMap[s.cObjectHandle]? = none := by simpa [object] using hfree
      simp [object, hfree, CApiEvent.newObject]
    · simp [object]
    · exact onlyAt_receive (fun h' hne => HandleMap.insert_of_ne _ _ hne) rfl
  | efpSendData h c =>
    refine onSender_step rfl rfl (Or.inl rfl) (fun _ => rfl) (fun o => ?_) fun _ h' hne => ?_
    · simp [CApiEvent.effect]
    · exact HandleMap.insert_of_ne _ _ hne
  | efpReceiveFragment h pSubPacket fromSource amb =>
    refine onReceiver_step rfl rfl (Or.inl rfl) (fun _ => rfl) (fun o => ?_) fun _ h' hne => ?_
    · simp [CApiEvent.effect]
    · exact HandleMap.insert_of_ne _ _ hne
  | efpEndSend h =>
    refine onSender_step rfl rfl (Or.inr rfl) (fun _ => rfl) (fun o => ?_) fun _ h' hne => ?_
    · simp [CApiEvent.effect]
    · exact HandleMap.erase_of_ne _ hne
  | efpEndReceive h =>
    refine onReceiver_step rfl rfl (Or.inr rfl) (fun _ => rfl) (fun o => ?_) fun _ h' hne => ?_
    · simp [CApiEvent.effect]
    · exact HandleMap.erase_of_ne _ hne
  | receiverWorkerPass h lTimeNow =>
    simp only [step, workerPass]
    cases hobject : s.efpReceiveBaseMap[h]? with
    | none => exact .pass _ _ rfl rfl rfl (fun _ _ => rfl) rfl rfl
    | some efpBase =>
      refine .pass _ _ rfl rfl rfl (fun kind h' => ?_) rfl rfl
      cases kind with
      | send => rfl
      | receive =>
        by_cases hh : h' = h
        · subst hh
          simp [object, hobject]
        · simp only [object, HandleMap.insert_of_ne _ _ hh]

/-! ## §5 The maps and the history -/

/-- What a call reports of an object is not a handle. -/
theorem CApiEvent.effect_result (e : CApiEvent) (o : CObject) (h : UInt64) :
    (e.effect o).2.result ≠ some (.handle h) := by
  cases e <;> cases o <;> simp [effect]

/-- One event takes in the handle that it gives out, and gives up the one that it ends. -/
theorem CApi.step_isSome (s : CApi) (e : CApiEvent) (kind : CApiKind) (h : UInt64) :
    ((s.step e).1.object kind h).isSome ↔
      e.grants (s.step e).2 = some (kind, h) ∨
        ((s.object kind h).isSome ∧ e.ends ≠ some (kind, h)) := by
  have hstep := s.step_cases e
  generalize s.step e = out at hstep ⊢
  cases hstep with
  | created kind' s' hcreates hnames hends hnew hsome honly hcounter =>
    have hgrants : e.grants { result := some (.handle s.cObjectHandle) } =
        some (kind', s.cObjectHandle) := by
      simp [CApiEvent.grants, hcreates]
    by_cases hsame : (kind, h) = (kind', s.cObjectHandle)
    · obtain ⟨rfl, rfl⟩ := Prod.mk.inj hsame
      exact iff_of_true hsome (Or.inl hgrants)
    · rw [honly kind h hsame, hgrants, hends]
      simp [Option.some.injEq, Ne.symm hsame]
  | used kind' h' o s' report hcreates hnames hends hobject heffect honly hcounter =>
    have hgrants : e.grants report = none := by simp [CApiEvent.grants, hcreates]
    by_cases hsame : (kind, h) = (kind', h')
    · obtain ⟨rfl, rfl⟩ := Prod.mk.inj hsame
      -- the entry is there afterwards unless the call ends it
      have hself : s'.object kind h = (e.effect o).1 := congrArg Prod.fst heffect
      rw [hgrants, hends, hself, hobject]
      cases (e.effect o).1 <;> simp
    · rw [honly kind h hsame, hgrants, hends]
      cases (e.effect o).1 <;> simp [Ne.symm hsame]
  | missing kind' h' hcreates hnames hends hobject =>
    have hgrants : e.grants { result := some .missingEntry } = none := by
      simp [CApiEvent.grants, hcreates]
    rw [hgrants]
    by_cases hsame : (kind, h) = (kind', h')
    · obtain ⟨rfl, rfl⟩ := Prod.mk.inj hsame
      simp [hobject]
    · rcases hends with hends | hends
      · simp [hends]
      · simp [hends, Ne.symm hsame]
  | pass s' report hcreates hnames hends hobjects hreport hcounter =>
    simp [CApiEvent.grants, hcreates, hends, hobjects]

/-- The handle has an object in the map of its kind. -/
def CApi.Has (s : CApi) (key : CApiKind × UInt64) : Prop := (s.object key.1 key.2).isSome

/-- **The maps hold the live handles**, in every run. -/
theorem live_iff (w : List CApiEvent) (kind : CApiKind) (h : UInt64) :
    Live w kind h ↔ ((cApi.run {} w).object kind h).isSome := by
  have hempty : ∀ key, ¬ CApi.Has {} key := by
    rintro ⟨kind, h⟩
    cases kind <;> simp [CApi.Has, CApi.object]
  have htable : (cApi.run {} w).Has (kind, h) ↔ Live w kind h :=
    cApi.holds_iff_heldAfter CApiEvent.grants CApiEvent.ends hempty
      (fun s e key => s.step_isSome e key.1 key.2) w (kind, h)
  exact htable.symm

/-- A new object is returned under the counter, which moves on. -/
theorem CApi.step_creates {s : CApi} {e : CApiEvent} {kind : CApiKind}
    (hcreates : e.creates = some kind) :
    (s.step e).2.result = some (.handle s.cObjectHandle) ∧
      (s.step e).1.cObjectHandle = s.cObjectHandle + 1 ∧
      (s.object kind s.cObjectHandle = none →
        (s.step e).1.object kind s.cObjectHandle = e.newObject) ∧
      s.OnlyAt (s.step e).1 kind s.cObjectHandle := by
  have hstep := s.step_cases e
  generalize s.step e = out at hstep ⊢
  cases hstep with
  | created kind' s' hkind hnames hends hnew hsome honly hcounter =>
    obtain rfl := Option.some.inj (hkind.symm.trans hcreates)
    exact ⟨rfl, hcounter, hnew, honly⟩
  | used _ _ _ _ _ hnone => exact absurd (hnone.symm.trans hcreates) (by simp)
  | missing _ _ hnone => exact absurd (hnone.symm.trans hcreates) (by simp)
  | pass _ _ hnone => exact absurd (hnone.symm.trans hcreates) (by simp)

/-- A call with a handle has its effect on the object of the handle, or dereferences the end of the
    map. -/
theorem CApi.step_names {s : CApi} {e : CApiEvent} {kind : CApiKind} {h : UInt64}
    (hnames : e.names = some (kind, h)) :
    (∃ o, s.object kind h = some o ∧
      ((s.step e).1.object kind h, (s.step e).2) = e.effect o ∧ s.OnlyAt (s.step e).1 kind h) ∨
    (s.object kind h = none ∧ s.step e = (s, { result := some .missingEntry })) := by
  have hstep := s.step_cases e
  generalize s.step e = out at hstep ⊢
  cases hstep with
  | created _ _ _ hnone => exact absurd (hnone.symm.trans hnames) (by simp)
  | used kind' h' o s' report _ hnames' hends hobject heffect honly hcounter =>
    obtain ⟨rfl, rfl⟩ := Prod.mk.inj (Option.some.inj (hnames'.symm.trans hnames))
    exact Or.inl ⟨o, hobject, heffect, honly⟩
  | missing kind' h' _ hnames' hends hobject =>
    obtain ⟨rfl, rfl⟩ := Prod.mk.inj (Option.some.inj (hnames'.symm.trans hnames))
    exact Or.inr ⟨hobject, rfl⟩
  | pass _ _ _ hnone => exact absurd (hnone.symm.trans hnames) (by simp)

/-- Nothing else moves the counter or returns a handle. -/
theorem CApi.step_creates_none {s : CApi} {e : CApiEvent} (hcreates : e.creates = none) :
    (s.step e).1.cObjectHandle = s.cObjectHandle ∧
      ∀ h, (s.step e).2.result ≠ some (.handle h) := by
  have hstep := s.step_cases e
  generalize s.step e = out at hstep ⊢
  cases hstep with
  | created kind s' hkind => exact absurd (hcreates.symm.trans hkind) (by simp)
  | used kind h o s' report _ hnames hends hobject heffect honly hcounter =>
    have hreport : report = (e.effect o).2 := congrArg Prod.snd heffect
    exact ⟨hcounter, fun h' => hreport ▸ e.effect_result o h'⟩
  | missing kind h _ hnames hends hobject => exact ⟨rfl, by simp⟩
  | pass s' report _ hnames hends hobjects hreport hcounter => exact ⟨hcounter, by simp [hreport]⟩

/-- The number of objects that a run creates. -/
def creations (w : List CApiEvent) : ℕ := w.countP fun e => e.creates.isSome

/-- Handles are counted: the next one is the number of objects created so far and one, and the
    returned ones are smaller. -/
theorem handles_counted (w : List CApiEvent) :
    (cApi.run {} w).cObjectHandle = UInt64.ofNat (creations w + 1) ∧
      ∀ o ∈ cApi.outputs {} w, ∀ h, o.result = some (.handle h) →
        ∃ i < creations w, h = UInt64.ofNat (i + 1) := by
  induction w using List.reverseRecOn with
  | nil => exact ⟨rfl, fun o ho => absurd ho List.not_mem_nil⟩
  | append_singleton w e ih =>
    obtain ⟨hcounter, hissued⟩ := ih
    have hcount : creations (w ++ [e]) = creations w + if e.creates.isSome then 1 else 0 := by
      simp [creations, List.countP_append, List.countP_cons]
    have hlater : ∀ o ∈ cApi.outputs {} w, ∀ h, o.result = some (.handle h) →
        ∃ i < creations (w ++ [e]), h = UInt64.ofNat (i + 1) := by
      intro o ho h hresult
      obtain ⟨i, hi, hh⟩ := hissued o ho h hresult
      exact ⟨i, by omega, hh⟩
    rw [Machine.run_concat, Machine.outputs_concat]
    cases hcreates : e.creates with
    | none =>
      obtain ⟨hkept, hresult⟩ := CApi.step_creates_none (s := cApi.run {} w) hcreates
      rw [hcreates] at hcount
      refine ⟨(hkept.trans hcounter).trans (by rw [hcount]; rfl), fun o ho h hhandle => ?_⟩
      rcases List.mem_append.mp ho with ho | ho
      · exact hlater o ho h hhandle
      · obtain rfl := List.mem_singleton.mp ho
        exact absurd hhandle (hresult h)
    | some kind =>
      obtain ⟨hresult, hmoved, -, -⟩ := CApi.step_creates (s := cApi.run {} w) hcreates
      rw [hcreates] at hcount
      refine ⟨?_, fun o ho h hhandle => ?_⟩
      · show ((cApi.run {} w).step e).1.cObjectHandle = _
        rw [hmoved, hcounter, hcount]
        exact (UInt64.ofNat_add _ 1).symm
      · rcases List.mem_append.mp ho with ho | ho
        · exact hlater o ho h hhandle
        · obtain rfl := List.mem_singleton.mp ho
          refine ⟨creations w, by rw [hcount]; exact Nat.lt_succ_self _, ?_⟩
          have hh := Option.some.inj (hhandle.symm.trans hresult)
          rw [← hcounter]
          exact CApiResult.handle.inj hh

/-- **A new handle was never returned**, as long as the counter does not wrap. -/
theorem handle_fresh {w : List CApiEvent} (hcalls : creations w + 1 < 2 ^ 64) :
    ∀ o ∈ cApi.outputs {} w, o.result ≠ some (.handle (cApi.run {} w).cObjectHandle) := by
  obtain ⟨hcounter, hissued⟩ := handles_counted w
  intro o ho hresult
  obtain ⟨i, hi, hh⟩ := hissued o ho _ hresult
  have hnat := congrArg UInt64.toNat (hcounter.symm.trans hh)
  have hsmall : i + 1 < 2 ^ 64 := by omega
  rw [UInt64.toNat_ofNat_of_lt' hcalls, UInt64.toNat_ofNat_of_lt' hsmall] at hnat
  omega

/-- No object is held under a handle that was never returned. -/
theorem object_eq_none_of_fresh {w : List CApiEvent} {h : UInt64}
    (hfresh : ∀ o ∈ cApi.outputs {} w, o.result ≠ some (.handle h)) (kind : CApiKind) :
    (cApi.run {} w).object kind h = none := by
  rw [← Option.not_isSome_iff_eq_none, ← live_iff]
  intro hlive
  obtain ⟨x, e, htakes, hgrants⟩ := Machine.HeldAfter.granted _ _ _ hlive
  have hmem := cApi.mem_outputs_iff.mpr ⟨x, e, htakes, rfl⟩
  apply hfresh _ hmem
  -- what was granted is what the call returned
  unfold CApiEvent.grants at hgrants
  split at hgrants
  case _ kind' h' _ hresult =>
    obtain ⟨-, rfl⟩ := Prod.mk.inj (Option.some.inj hgrants)
    exact hresult
  case _ => exact absurd hgrants (by simp)

/-! ## §6 Lawful calls -/

/-- **A call with a live handle, or with none, is lawful.** -/
theorem lawful_of_live {w : List CApiEvent} {e : CApiEvent}
    (hcalls : creations (w ++ [e]) < 2 ^ 64)
    (hnamed : ∀ kind h, e.names = some (kind, h) → Live w kind h) : Lawful w e := by
  refine ⟨fun kind hcreates => ?_, fun kind h hnames hlive => ?_, fun kind h hnames hdead => ?_⟩
  · have hfresh : ∀ o ∈ cApi.outputs {} w,
        o.result ≠ some (.handle (cApi.run {} w).cObjectHandle) := by
      apply handle_fresh
      have hcount : creations (w ++ [e]) = creations w + 1 := by
        simp [creations, List.countP_append, hcreates]
      omega
    obtain ⟨hresult, -, hnew, honly⟩ := CApi.step_creates (s := cApi.run {} w) hcreates
    exact ⟨_, hresult, hfresh, hnew (object_eq_none_of_fresh hfresh kind), honly⟩
  · rcases CApi.step_names (s := cApi.run {} w) hnames with hused | ⟨hnone, -⟩
    · exact hused
    · -- a live handle has an object
      have hsome := (live_iff w kind h).mp hlive
      rw [hnone] at hsome
      exact absurd hsome Bool.false_ne_true
  · exact absurd (hnamed kind h hnames) hdead

/-- A call with any other handle dereferences the end of the map. -/
theorem step_of_not_live {w : List CApiEvent} {e : CApiEvent} {kind : CApiKind} {h : UInt64}
    (hnames : e.names = some (kind, h)) (hdead : ¬ Live w kind h) :
    cApi.step (cApi.run {} w) e = (cApi.run {} w, { result := some .missingEntry }) := by
  rcases CApi.step_names (s := cApi.run {} w) hnames with ⟨o, hobject, -⟩ | ⟨-, hstep⟩
  · exact absurd ((live_iff w kind h).mpr (Option.isSome_of_eq_some hobject)) hdead
  · exact hstep

/-- It is not lawful. -/
theorem not_lawful_of_not_live {w : List CApiEvent} {e : CApiEvent} {kind : CApiKind} {h : UInt64}
    (hnames : e.names = some (kind, h)) (hdead : ¬ Live w kind h) : ¬ Lawful w e := by
  intro hlawful
  have hresult := (hlawful.stale kind h hnames hdead).1
  rw [step_of_not_live hnames hdead] at hresult
  simp at hresult

/-- **When the calls of a sequence are lawful**: exactly when each call that names a handle names
    one that an init of its kind returned and no end of its kind has named since. -/
theorem calls_lawful_iff (es : List CApiEvent) (hcalls : creations es < 2 ^ 64) :
    (∀ pre e post, es = pre ++ e :: post → Lawful pre e) ↔
      ∀ pre e post, es = pre ++ e :: post → ∀ kind h, e.names = some (kind, h) →
        Live pre kind h := by
  constructor
  · intro hlawful pre e post hsplit kind h hnames
    by_contra hdead
    exact not_lawful_of_not_live hnames hdead (hlawful pre e post hsplit)
  · intro hnamed pre e post hsplit
    refine lawful_of_live ?_ (hnamed pre e post hsplit)
    have hle : creations (pre ++ [e]) ≤ creations es := by
      have hsub : pre ++ [e] <+: es := ⟨post, by simp [hsplit]⟩
      exact hsub.sublist.countP_le
    omega

/-- A sender that is created and ended. -/
def oneSender : List CApiEvent := [.efpInitSend 1456 0 0, .efpEndSend 1]

theorem oneSender_lawful :
    Lawful [] (.efpInitSend 1456 0 0) ∧ Lawful [.efpInitSend 1456 0 0] (.efpEndSend 1) := by
  suffices hnamed : ∀ pre e post, oneSender = pre ++ e :: post → ∀ kind h,
      e.names = some (kind, h) → Live pre kind h by
    have hlawful := (calls_lawful_iff oneSender (by decide)).mpr hnamed
    exact ⟨hlawful [] _ _ rfl, hlawful [.efpInitSend 1456 0 0] _ [] rfl⟩
  intro pre e post hsplit kind h hnames
  rcases pre with _ | ⟨a, _ | ⟨b, pre⟩⟩
  · -- the first call names no handle
    obtain ⟨rfl, -⟩ := List.cons.inj hsplit
    exact absurd hnames (by simp [CApiEvent.names])
  · obtain ⟨rfl, hrest⟩ := List.cons.inj hsplit
    obtain ⟨rfl, -⟩ := List.cons.inj hrest
    obtain ⟨rfl, rfl⟩ := Prod.mk.inj (Option.some.inj hnames)
    exact ⟨[], _, [], rfl, rfl, fun j hj => absurd hj List.not_mem_nil⟩
  · have hlength := congrArg List.length hsplit
    simp [oneSender] at hlength

/-- The second end of a sender dereferences the end of the map. -/
theorem not_lawful_double_end :
    (cApi.step (cApi.run {} oneSender) (.efpEndSend 1)).2.result = some .missingEntry ∧
      ¬ ∀ pre e post, oneSender ++ [.efpEndSend 1] = pre ++ e :: post → Lawful pre e := by
  have hdead : ¬ Live oneSender .send 1 := by
    rw [live_iff]
    decide +kernel
  refine ⟨by rw [step_of_not_live rfl hdead], fun hlawful => ?_⟩
  exact not_lawful_of_not_live rfl hdead (hlawful oneSender _ [] rfl)

end ElasticFrame
