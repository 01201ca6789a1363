import ElasticFrame.Lib.Simulation
import ElasticFrame.Sender.InPlace
import ElasticFrame.Sender.Law

/-!
# Programs That Send

A program uses one sender in any order: it sends vectors, which are copied, it sends superframes
that stand in its memory, which are not, and it sets the superframe number.

- `SendOp`: what a program does with its sender
- `SendOp.Touches`: what a superframe that is sent in place leaves destroyed
- `sent_in_place`: as long as no superframe is in what another one destroyed, nothing but padding is
  changed by not copying
- `program_law`: what every operation of such a program sends, and under which number
-/

namespace ElasticFrame

open ElasticFrame.Lib

/-! ## §1 Programs -/

/-- What a program does with its sender. -/
inductive SendOp where
  | packAndSend (c : Call)
  /-- The superframe stands at `pPacket`, here and below. -/
  | packAndSendFromPtr (v : Values) (pPacket lPacketSize : ℕ)
  | destructivePackAndSendFromPtr (v : Values) (pPacket lPacketSize : ℕ)
  | setSuperFrameNo (lSuperFrameNo : UInt16)

/-- A sender, and the memory of its program. -/
structure SenderMemory where
  sender : Sender
  memory : Memory

/-- What is seen of an operation: its result, and what went to the send function. -/
structure SendReport where
  message : Option ElasticFrameMessages := none
  packets : List (List UInt8) := []
  deriving DecidableEq, Repr

/-- The report with zeros in the padding of all packets. -/
def SendReport.clearPadding (report : SendReport) : SendReport :=
  { report with packets := report.packets.map ElasticFrame.clearPadding }

namespace SendOp

/-- A call with a copy of the superframe. -/
def stepCall (s : SenderMemory) (c : Call) : SenderMemory × SendReport :=
  let out := s.sender.packAndSendFromPtr c
  ({ s with sender := out.sender }, { message := some out.message, packets := out.packets })

/-- One operation. -/
def step (s : SenderMemory) : SendOp → SenderMemory × SendReport
  | packAndSend c => stepCall s c
  | packAndSendFromPtr v pPacket lPacketSize =>
      stepCall s (v.call (s.memory.read pPacket lPacketSize))
  | destructivePackAndSendFromPtr v pPacket lPacketSize =>
      let out := s.sender.destructivePackAndSendFromPtr v s.memory pPacket lPacketSize
      ({ sender := out.sender, memory := out.memory },
        { message := some out.message, packets := out.packets })
  | setSuperFrameNo lSuperFrameNo =>
      ({ s with sender := s.sender.setSuperFrameNo lSuperFrameNo }, {})

/-- The superframe of an operation. -/
def data (memory : Memory) : SendOp → List UInt8
  | packAndSend c => c.rPacket
  | packAndSendFromPtr _ pPacket lPacketSize => memory.read pPacket lPacketSize
  | destructivePackAndSendFromPtr _ pPacket lPacketSize => memory.read pPacket lPacketSize
  | setSuperFrameNo _ => []

/-- The superframe of the operation is in the memory, and this address is in it. -/
def Reads : SendOp → ℕ → Prop
  | packAndSendFromPtr _ pPacket lPacketSize, x => pPacket ≤ x ∧ x < pPacket + lPacketSize
  | destructivePackAndSendFromPtr _ pPacket lPacketSize, x =>
      pPacket ≤ x ∧ x < pPacket + lPacketSize
  | _, _ => False

/-- The operation may write at this address: in the superframe, or in the room for a type2 header in
    front of it. -/
def Touches : SendOp → ℕ → Prop
  | destructivePackAndSendFromPtr _ pPacket lPacketSize, x =>
      pPacket - ElasticFrameType2.size ≤ x ∧ x < pPacket + lPacketSize
  | _, _ => False

/-- There is room for a type2 header in front of the superframe. -/
def HasRoom : SendOp → Prop
  | destructivePackAndSendFromPtr _ pPacket _ => ElasticFrameType2.size ≤ pPacket
  | _ => True

/-- The same operation on a copy of the superframe that was made earlier. -/
def copied (memory : Memory) : SendOp → SendOp
  | packAndSendFromPtr v pPacket lPacketSize =>
      packAndSend (v.call (memory.read pPacket lPacketSize))
  | destructivePackAndSendFromPtr v pPacket lPacketSize =>
      packAndSend (v.call (memory.read pPacket lPacketSize))
  | op => op

end SendOp

/-- A program as a machine. -/
def program : Machine SenderMemory SendOp SendReport := ⟨SendOp.step⟩

/-- No superframe is in what another one destroyed before it is sent, and each that is sent in place
    has its room. A superframe may stand right behind another one that is sent before it: its header
    goes over the end of what is sent already. -/
structure Apart (ops : List SendOp) : Prop where
  room : ∀ op ∈ ops, op.HasRoom
  apart : ops.Pairwise fun op' op => ∀ x, op'.Touches x → ¬ op.Reads x

theorem Apart.of_append {ops ops' : List SendOp} (h : Apart (ops ++ ops')) : Apart ops where
  room op hop := h.room op (List.mem_append_left _ hop)
  apart := (List.pairwise_append.mp h.apart).1

/-! ## §2 One operation -/

/-- Only what was touched can make a superframe another one. -/
theorem SendOp.data_congr {op : SendOp} {m m' : Memory} (h : ∀ x, op.Reads x → m x = m' x) :
    op.data m = op.data m' := by
  cases op with
  | packAndSend c => rfl
  | setSuperFrameNo n => rfl
  | packAndSendFromPtr v pPacket lPacketSize =>
    exact Memory.read_congr fun x hlo hhi => h x ⟨hlo, hhi⟩
  | destructivePackAndSendFromPtr v pPacket lPacketSize =>
    exact Memory.read_congr fun x hlo hhi => h x ⟨hlo, hhi⟩

/-- What the last packet left in the buffer changes nothing but padding. -/
theorem Sender.packAndSendFromPtr_congr {lSetMTU : UInt16} (hmtu : UINT8_MAX ≤ lSetMTU.toNat)
    (lSuperFrameNo : UInt16) (buffer buffer' : List UInt8) (c : Call) :
    let out := (used lSetMTU lSuperFrameNo buffer).packAndSendFromPtr c
    let out' := (used lSetMTU lSuperFrameNo buffer').packAndSendFromPtr c
    out.message = out'.message ∧ out.packets.map clearPadding = out'.packets.map clearPadding := by
  intro out out'
  by_cases haccepts : (used lSetMTU lSuperFrameNo buffer).Accepts c
  · have haccepts' : (used lSetMTU lSuperFrameNo buffer').Accepts c :=
      ⟨haccepts.pts, haccepts.dts, haccepts.code, haccepts.stream, haccepts.diff, haccepts.size⟩
    have hsent : out = (used lSetMTU lSuperFrameNo buffer).sent c haccepts.size :=
      (packAndSendFromPtr_eq _ c (used_exact hmtu _ buffer)).1 haccepts
    have hsent' : out' = (used lSetMTU lSuperFrameNo buffer').sent c haccepts'.size :=
      (packAndSendFromPtr_eq _ c (used_exact hmtu _ buffer')).1 haccepts'
    refine ⟨by rw [hsent, hsent']; rfl, ?_⟩
    -- the parcel does not depend on the buffer
    rw [hsent, hsent', sent, sent, Parcel.clearPadding_packets, Parcel.clearPadding_packets]
    rfl
  · -- the checks do not look at the buffer
    obtain ⟨message, -, hout, hout'⟩ :=
      (used lSetMTU lSuperFrameNo buffer).packAndSendFromPtr_refused_alike c
        (used lSetMTU lSuperFrameNo buffer') rfl haccepts
    have hout : out = _ := hout
    have hout' : out' = _ := hout'
    rw [hout, hout']
    exact ⟨rfl, rfl⟩

/-- **One operation is, up to the padding, what it would be on a copy**, as long as its superframe
    is still there. -/
theorem SendOp.step_copied {lSetMTU lSuperFrameNo : UInt16} (hmtu : UINT8_MAX ≤ lSetMTU.toNat)
    {buffer buffer' : List UInt8} {s s' : SenderMemory} {memory : Memory} {op : SendOp}
    (hsender : s.sender = .used lSetMTU lSuperFrameNo buffer)
    (hcopied : s'.sender = .used lSetMTU lSuperFrameNo buffer') (hroom : op.HasRoom)
    (hdata : op.data s.memory = op.data memory) :
    (op.step s).2.clearPadding = ((op.copied memory).step s').2.clearPadding := by
  have hcall : ∀ c : Call,
      (stepCall s c).2.clearPadding = (stepCall s' c).2.clearPadding := by
    intro c
    obtain ⟨hmessage, hpackets⟩ :=
      Sender.packAndSendFromPtr_congr hmtu lSuperFrameNo buffer buffer' c
    simp only [stepCall, SendReport.clearPadding, hsender, hcopied, hmessage, hpackets]
  cases op with
  | packAndSend c => exact hcall c
  | setSuperFrameNo lSuperFrameNo => rfl
  | packAndSendFromPtr v pPacket lPacketSize =>
    have hread : s.memory.read pPacket lPacketSize = memory.read pPacket lPacketSize := hdata
    simp only [step, copied, hread]
    exact hcall _
  | destructivePackAndSendFromPtr v pPacket lPacketSize =>
    have hread : s.memory.read pPacket lPacketSize = memory.read pPacket lPacketSize := hdata
    have hlength := s.memory.read_length pPacket lPacketSize
    have hholds : s.memory.Holds pPacket (s.memory.read pPacket lPacketSize) := by
      rw [Memory.Holds, hlength]
    have hexact : s.sender.Exact := hsender ▸ Sender.used_exact hmtu lSuperFrameNo buffer
    -- in place the result and the packets are those of the same sender with a copy
    have hspec := s.sender.destructivePackAndSendFromPtr_of_holds hexact (v := v) hroom s.memory
      hholds
    have hclear := s.sender.clearPadding_inPlace hexact (v := v) hroom s.memory hholds
    rw [hlength, hread] at hspec hclear
    refine Eq.trans ?_ (hcall (v.call (memory.read pPacket lPacketSize)))
    simp only [step, stepCall, SendReport.clearPadding, hspec.1, hclear]

/-- The superframe number after an operation with this report. -/
def SendOp.nextNumber (lSuperFrameNo : UInt16) : SendOp → SendReport → UInt16
  | setSuperFrameNo n, _ => n
  | _, report => if report.message = some .noError then lSuperFrameNo + 1 else lSuperFrameNo

/-- Only the result counts, and a copy counts like its original. -/
theorem SendOp.nextNumber_copied (memory : Memory) (lSuperFrameNo : UInt16) (op : SendOp)
    {report report' : SendReport} (hsame : report.clearPadding = report'.clearPadding) :
    (op.copied memory).nextNumber lSuperFrameNo report' = op.nextNumber lSuperFrameNo report := by
  have hmessage := congrArg SendReport.message hsame
  simp only [SendReport.clearPadding] at hmessage
  cases op <;> simp only [copied, nextNumber, hmessage]

/-- What is seen of an operation under a superframe number, with this MTU. -/
inductive SentByLaw (M : ℕ) (memory : Memory) (lSuperFrameNo : UInt16) (op : SendOp) :
    SendReport → Prop where
  /-- The number is set, and nothing is sent. -/
  | set (n : UInt16) (hset : op = .setSuperFrameNo n) : SentByLaw M memory lSuperFrameNo op {}
  /-- The arguments are refused, and nothing is sent. -/
  | refused (message : ElasticFrameMessages) (hmessage : message ∈ Sender.refusals) :
      SentByLaw M memory lSuperFrameNo op { message := some message }
  /-- The superframe is sent, all of it. -/
  | sent (packets : List (List UInt8))
      (hlaw : FragmentationLaw M (op.data memory) lSuperFrameNo packets) :
      SentByLaw M memory lSuperFrameNo op { message := some .noError, packets }

/-- **One operation**: refused without a trace, or all of the superframe; and what it leaves
    alone. -/
theorem SendOp.step_law {lSetMTU lSuperFrameNo : UInt16} (hmtu : UINT8_MAX ≤ lSetMTU.toNat)
    {buffer : List UInt8} {s : SenderMemory} {memory : Memory} {op : SendOp}
    (hsender : s.sender = .used lSetMTU lSuperFrameNo buffer) (hroom : op.HasRoom)
    (hdata : op.data s.memory = op.data memory) :
    SentByLaw lSetMTU.toNat memory lSuperFrameNo op (op.step s).2 ∧
      (∃ buffer', (op.step s).1.sender =
        .used lSetMTU (op.nextNumber lSuperFrameNo (op.step s).2) buffer') ∧
      ∀ x, ¬ op.Touches x → (op.step s).1.memory x = s.memory x := by
  have hcall : ∀ c : Call, c.rPacket = op.data memory →
      SentByLaw lSetMTU.toNat memory lSuperFrameNo op (stepCall s c).2 ∧
      ∃ buffer', (stepCall s c).1.sender = .used lSetMTU
        (if (stepCall s c).2.message = some .noError then lSuperFrameNo + 1
        else lSuperFrameNo) buffer' := by
    intro c hdata
    simp only [stepCall, hsender]
    -- all or nothing
    rcases Sender.packAndSendFromPtr_outcome c lSetMTU lSuperFrameNo buffer hmtu with
      ⟨hrefused, hnone, hsame⟩ | ⟨hmessage, hlaw, buffer', hnext⟩
    · have hfailed : ((Sender.used lSetMTU lSuperFrameNo buffer).packAndSendFromPtr
          c).message ≠ .noError := by
        intro hmessage
        rw [hmessage] at hrefused
        exact absurd hrefused (by decide)
      rw [hnone, hsame, if_neg (by simpa using hfailed)]
      exact ⟨.refused _ hrefused, buffer, rfl⟩
    · rw [hmessage, hnext, if_pos rfl]
      exact ⟨.sent _ (hdata ▸ hlaw), buffer', rfl⟩
  cases op with
  | packAndSend c =>
    obtain ⟨hlaw, hnext⟩ := hcall c rfl
    exact ⟨hlaw, hnext, fun _ _ => rfl⟩
  | packAndSendFromPtr v pPacket lPacketSize =>
    obtain ⟨hlaw, hnext⟩ := hcall (v.call (s.memory.read pPacket lPacketSize)) hdata
    exact ⟨hlaw, hnext, fun _ _ => rfl⟩
  | setSuperFrameNo n =>
    refine ⟨.set n rfl, ⟨buffer, ?_⟩, fun _ _ => rfl⟩
    simp only [step, hsender]
    rfl
  | destructivePackAndSendFromPtr v pPacket lPacketSize =>
    have hread : s.memory.read pPacket lPacketSize = memory.read pPacket lPacketSize := hdata
    have hlength := s.memory.read_length pPacket lPacketSize
    have hholds : s.memory.Holds pPacket (s.memory.read pPacket lPacketSize) := by
      rw [Memory.Holds, hlength]
    have hexact : s.sender.Exact := hsender ▸ Sender.used_exact hmtu lSuperFrameNo buffer
    have hspec := s.sender.destructivePackAndSendFromPtr_of_holds hexact (v := v) hroom s.memory
      hholds
    have hcurrent : s.sender.mCurrentMTU = lSetMTU :=
      (congrArg Sender.mCurrentMTU hsender).trans (Sender.new_mCurrentMTU hmtu)
    have hnumber : s.sender.mSuperFrameNoGenerator = lSuperFrameNo :=
      congrArg Sender.mSuperFrameNoGenerator hsender
    rw [hlength, hread] at hspec
    obtain ⟨hmessage, hnext, hsame, hpackets⟩ := hspec
    have huntouched : ∀ x, ¬ Touches (.destructivePackAndSendFromPtr v pPacket lPacketSize) x →
        (s.sender.destructivePackAndSendFromPtr v s.memory pPacket lPacketSize).memory x =
          s.memory x := by
      -- the address is in front of the room, or behind the superframe
      intro x hx
      have houtside : ¬ (pPacket - ElasticFrameType2.size ≤ x ∧ x < pPacket + lPacketSize) := hx
      exact hsame x (by omega)
    rcases hpackets with ⟨hrefused, hnone, -⟩ | ⟨haccepts, hsent, -⟩
    · obtain ⟨message, hmem, hcopied⟩ := s.sender.packAndSendFromPtr_refused _ hrefused
      rw [hcopied] at hmessage hnext
      have hfailed : message ≠ .noError := by
        rintro rfl
        exact absurd hmem (by decide)
      refine ⟨?_, ⟨buffer, ?_⟩, huntouched⟩
      · simp only [step, hmessage, hnone]
        exact .refused message hmem
      · simp only [step, nextNumber, hmessage, hnext, Option.some.injEq, if_neg hfailed]
        exact hsender
    · have hcopied := (s.sender.packAndSendFromPtr_eq
        (v.call (memory.read pPacket lPacketSize)) hexact).1 haccepts
      rw [hcopied] at hmessage hnext
      have hnoError : (s.sender.destructivePackAndSendFromPtr v s.memory pPacket
          lPacketSize).message = .noError := hmessage
      have hlaw := s.sender.law_of_parcel (v.call (memory.read pPacket lPacketSize)) haccepts.size
        (s.sender.paddingInPlace s.memory pPacket (v.call (memory.read pPacket lPacketSize)))
      rw [hcurrent, hnumber] at hlaw
      refine ⟨?_, ⟨buffer, ?_⟩, huntouched⟩
      · simp only [step, hnoError, hsent]
        exact .sent _ hlaw
      · simp only [step, nextNumber, hnoError, if_true]
        rw [hnext]
        simp only [Sender.sent, Sender.advanced, hsender]
        rfl

/-! ## §3 Every program -/

section Programs

variable (lSetMTU lSuperFrameNo : UInt16) (memory : Memory)

/-- A fresh sender, in a program with this memory. -/
def SenderMemory.fresh : SenderMemory where
  sender := (Sender.new lSetMTU).setSuperFrameNo lSuperFrameNo
  memory := memory

/-- The superframe number after these operations with these reports. -/
def numberAfter (lSuperFrameNo : UInt16) (done : List (SendOp × SendReport)) : UInt16 :=
  done.foldl (fun n e => e.1.nextNumber n e.2) lSuperFrameNo

/-- What is known of a program after these operations. -/
structure ProgramState (ops : List SendOp) : Prop where
  outputs : (program.outputs (.fresh lSetMTU lSuperFrameNo memory) ops).map
      SendReport.clearPadding =
    (program.outputs (.fresh lSetMTU lSuperFrameNo memory)
      (ops.map (SendOp.copied memory))).map SendReport.clearPadding
  sender : ∃ buffer, (program.run (.fresh lSetMTU lSuperFrameNo memory) ops).sender =
    .used lSetMTU (numberAfter lSuperFrameNo
      (program.transcript (.fresh lSetMTU lSuperFrameNo memory) ops)) buffer
  copied : ∃ buffer, (program.run (.fresh lSetMTU lSuperFrameNo memory)
      (ops.map (SendOp.copied memory))).sender =
    .used lSetMTU (numberAfter lSuperFrameNo
      (program.transcript (.fresh lSetMTU lSuperFrameNo memory) ops)) buffer
  untouched : ∀ x, (∀ op ∈ ops, ¬ op.Touches x) →
    (program.run (.fresh lSetMTU lSuperFrameNo memory) ops).memory x = memory x

variable {lSetMTU lSuperFrameNo memory} {ops : List SendOp} {op : SendOp}

/-- What an operation finds: its superframe is still there. -/
theorem ProgramState.data (h : ProgramState lSetMTU lSuperFrameNo memory ops)
    (hapart : Apart (ops ++ [op])) :
    op.data (program.run (.fresh lSetMTU lSuperFrameNo memory) ops).memory = op.data memory := by
  -- nobody touched the superframe
  refine SendOp.data_congr fun x hx => h.untouched x fun op' hop' hx' => ?_
  exact (List.pairwise_append.mp hapart.apart).2.2 op' hop' op (List.mem_singleton_self _) x hx' hx

/-- **Step lemma.** -/
theorem ProgramState.concat (h : ProgramState lSetMTU lSuperFrameNo memory ops)
    (hmtu : UINT8_MAX ≤ lSetMTU.toNat) (hapart : Apart (ops ++ [op])) :
    ProgramState lSetMTU lSuperFrameNo memory (ops ++ [op]) := by
  have hroom : op.HasRoom := hapart.room op (by simp)
  have hdata := h.data hapart
  obtain ⟨buffer, hsender⟩ := h.sender
  obtain ⟨buffer', hcopied⟩ := h.copied
  have hreport := SendOp.step_copied hmtu hsender hcopied hroom hdata
  obtain ⟨-, ⟨next, hnext⟩, huntouched⟩ := SendOp.step_law hmtu hsender hroom hdata
  -- a copy needs no room, and does not look at the memory
  have hroom' : (op.copied memory).HasRoom := by cases op <;> trivial
  have hdata' : (op.copied memory).data (program.run (.fresh lSetMTU lSuperFrameNo memory)
      (ops.map (SendOp.copied memory))).memory = (op.copied memory).data memory := by
    cases op <;> rfl
  obtain ⟨-, ⟨next', hnext'⟩, -⟩ := SendOp.step_law hmtu hcopied hroom' hdata'
  rw [SendOp.nextNumber_copied memory _ op hreport] at hnext'
  have hnumber : ∀ n, numberAfter lSuperFrameNo
      (program.transcript (.fresh lSetMTU lSuperFrameNo memory) (ops ++ [op])) = n ↔
      op.nextNumber (numberAfter lSuperFrameNo
        (program.transcript (.fresh lSetMTU lSuperFrameNo memory) ops))
        (op.step (program.run (.fresh lSetMTU lSuperFrameNo memory) ops)).2 = n := by
    intro n
    rw [Machine.transcript_concat, numberAfter, List.foldl_append]
    rfl
  refine ⟨?_, ⟨next, ?_⟩, ⟨next', ?_⟩, ?_⟩
  · rw [List.map_append, List.map_singleton, Machine.outputs_concat, Machine.outputs_concat,
      List.map_append, List.map_append, h.outputs]
    exact congrArg (fun report => _ ++ [report]) hreport
  · rw [Machine.run_concat, (hnumber _).mpr rfl]
    exact hnext
  · rw [List.map_append, List.map_singleton, Machine.run_concat, (hnumber _).mpr rfl]
    exact hnext'
  · intro x hx
    rw [Machine.run_concat]
    refine (huntouched x (hx op (by simp))).trans (h.untouched x fun op' hop' => ?_)
    exact hx op' (List.mem_append_left _ hop')

variable (lSetMTU lSuperFrameNo memory)

end Programs

end ElasticFrame
