import ModbusStack.LineResults
import ModbusStack.MasterCycles

/-! The harness on the serial line: what a passed test says about the slave. -/
set_option autoImplicit false

namespace ModbusStack
open ByteMemory Machine

/-! The transaction object is what the calls on record have made of it. -/

def MasterEvent.call? : MasterEvent → Option TransactionCall
  | .called c => some c
  | _ => none

def MasterApp.calls (a : MasterApp) : List TransactionCall := a.log.filterMap MasterEvent.call?

/-- A started ADU is what a builder has put into a cleared buffer. -/
def TransactionCall.Built : TransactionCall → Prop
  | .start _ (some adu) length _ _ => ∃ bytes, adu = ofList bytes ∧ length = bytes.length
  | _ => True

def MasterApp.Extends (a a' : MasterApp) : Prop :=
  ∃ events, a'.log = a.log ++ events ∧
    a'.transaction = run transactionStep a.transaction (events.filterMap MasterEvent.call?) ∧
    ∀ c ∈ events.filterMap MasterEvent.call?, c.Built

section Recording
variable {a a' a'' : MasterApp}

theorem MasterApp.Extends.still (hlog : a'.log = a.log) (ht : a'.transaction = a.transaction) :
    a.Extends a' :=
  ⟨[],by simp [hlog],ht,by simp⟩

theorem MasterApp.Extends.trans (h : a.Extends a') (h' : a'.Extends a'') : a.Extends a'' := by
  obtain ⟨es,hlog,ht,hbuilt⟩ := h
  obtain ⟨es',hlog',ht',hbuilt'⟩ := h'
  refine ⟨es ++ es',by rw [hlog',hlog,List.append_assoc],
    by rw [ht',ht,List.filterMap_append,run_append],fun c hc => ?_⟩
  rw [List.filterMap_append] at hc
  exact (List.mem_append.mp hc).elim (hbuilt c) (hbuilt' c)

theorem report_extends {c : TransactionCall} (hbuilt : c.Built) : a.Extends (a.report c).2 :=
  ⟨[.called c],rfl,rfl,by simpa [MasterEvent.call?] using hbuilt⟩

theorem call_extends (x : UartTransmission) {c : Int → TransactionCall}
    (hbuilt : ∀ answer, (c answer).Built) : a.Extends (a.call x c).2 := by
  have h := callTransaction_spec a.uart a.transaction x c
  unfold MasterApp.call
  generalize callTransaction a.transaction a.uart x c = out at h
  cases h with
  | silent => exact ⟨[.called (c 0)],rfl,rfl,by simpa [MasterEvent.call?] using hbuilt 0⟩
  | transmitted answer =>
    exact ⟨[.called (c answer)],rfl,rfl,by simpa [MasterEvent.call?] using hbuilt answer⟩

theorem interrupted_extends (is : List MasterInterrupt) : a.Extends (a.interrupted is) :=
  .still rfl rfl

theorem sync_extends : a.Extends (modbusMasterSyncWatchState a) :=
  .still (sync_log a) (sync_sameCycle a).2.1

theorem handleTxComplete_extends : a.Extends (modbusMasterHandleTxComplete a) := by
  unfold modbusMasterHandleTxComplete
  dsimp only
  split
  · exact .still rfl rfl
  · have h := @report_extends { a with uart := { a.uart with txCompletePending := 0 } }
      (.onTxComplete a.uart.txCompleteTick) trivial
    split <;> exact h

theorem finishCycle_extends (result : TestResult) (now : Word32) :
    a.Extends (modbusMasterFinishCycle a result now) :=
  ⟨[.cycleFinished result],rfl,rfl,by simp [MasterEvent.call?]⟩

theorem modbusMasterBuildRequest_adu (c : TestCycle) (settings : MasterSettings) :
    ∃ bytes, (modbusMasterBuildRequest c settings).2.requestAdu = ofList bytes ∧
      (modbusMasterBuildRequest c settings).2.requestAduLength = bytes.length := by
  unfold modbusMasterBuildRequest
  split
  · exact ⟨_,rfl,rfl⟩
  · dsimp only
    split <;> exact ⟨_,rfl,rfl⟩

theorem startCurrentStep_extends (now : Word32) (x : StartHardware) :
    a.Extends (modbusMasterStartCurrentStep a now x) := by
  have hadu := modbusMasterBuildRequest_adu a.cycle a.settings
  unfold modbusMasterStartCurrentStep
  generalize modbusMasterBuildRequest a.cycle a.settings = built at hadu
  obtain ⟨result,c⟩ := built
  dsimp only
  split
  · exact finishCycle_extends _ _
  · have hcall := @call_extends { a with cycle := c } x.transmission
      (.start (some c.request) (some c.requestAdu) c.requestAduLength now) fun _ => hadu
    generalize MasterApp.call _ x.transmission _ = called at hcall ⊢
    obtain ⟨code,sent⟩ := called
    have hsent := MasterApp.Extends.trans hcall (interrupted_extends x.afterStart)
    have hreported := hsent.trans handleTxComplete_extends
    have hready := hreported.trans (interrupted_extends x.afterTxComplete)
    dsimp only
    split
    · exact MasterApp.Extends.trans hcall (finishCycle_extends _ _)
    · exact hready.trans sync_extends

theorem takeSelectedTest_extends (checked : MasterTest) (now : Word32) (x : StartHardware) :
    a.Extends (takeSelectedTest a checked now x) := by
  unfold takeSelectedTest
  split
  · exact ⟨[.cycleStarted checked a.settings.selectedTest,.cycleFinished .invalidTest],
      by simp [refuseTest,MasterApp.emit,MasterApp.setProtocolResult],rfl,
      by simp [MasterEvent.call?]⟩
  · refine .trans ⟨[.cycleStarted checked a.settings.selectedTest],?_,?_,?_⟩
      (startCurrentStep_extends _ _)
    · rfl
    · rfl
    · simp [MasterEvent.call?]

theorem terminal_extends (now : Word32) (x : StartHardware) :
    a.Extends (modbusMasterHandleTerminalTransaction a now x) := by
  have h := terminal_handled a now x
  generalize modbusMasterHandleTerminalTransaction a now x = a' at h ⊢
  cases h with
  | kept => exact .still rfl rfl
  | ended b result huart ht hlog => exact .trans (.still hlog ht) (finishCycle_extends _ _)
  | readback => exact .trans (.still rfl rfl) (startCurrentStep_extends _ _)

theorem handFrame_extends (f : TakenFrame) (now : Word32) :
    a.Extends (handResponseFrame a f now) := by
  unfold handResponseFrame
  dsimp only
  repeat' split
  · exact .still rfl rfl
  · exact .trans (.still rfl rfl) (report_extends trivial)
  · exact .trans (.still rfl rfl) (report_extends trivial)

theorem takeUartError_extends : a.Extends (takeUartError a).2 := by
  unfold takeUartError
  split <;> exact .still rfl rfl

theorem reportUartError_extends (now : Word32) : a.Extends (reportUartError a now) := by
  unfold reportUartError
  dsimp only
  split
  · exact .trans (.still rfl rfl) (report_extends trivial)
  · exact .still rfl rfl

theorem takeFrame_extends : a.Extends (takePendingFrame a).2 := by
  unfold takePendingFrame
  dsimp only
  split <;> exact .still rfl rfl

theorem masterLoopStep_extends (m : MasterLoop) (x : MasterInput) :
    m.app.Extends (masterLoopStep m x).2.app := by
  cases x with
  | interrupt | edit | requestNow => exact .still rfl rfl
  | process h =>
    show m.app.Extends (modbusMasterProcessStep m h).app
    obtain ⟨a,phase⟩ := m
    cases phase with
    | outside =>
      unfold modbusMasterProcessStep
      dsimp only
      split <;> exact .still rfl rfl
    | txComplete => exact handleTxComplete_extends
    | takeFrame =>
      have htaken := @takeFrame_extends a
      unfold modbusMasterProcessStep
      dsimp only
      generalize takePendingFrame a = out at htaken
      obtain ⟨f,a'⟩ := out
      cases f <;> exact htaken
    | handFrame f now => exact handFrame_extends _ _
    | uartError now =>
      have htaken := @takeUartError_extends a
      unfold modbusMasterProcessStep
      dsimp only
      generalize takeUartError a = out at htaken
      obtain ⟨noted,a'⟩ := out
      cases noted <;> exact htaken
    | resetReceiver now => exact .still rfl rfl
    | reportError now => exact reportUartError_extends now
    | poll now => exact call_extends _ fun _ => trivial
    | txCompleteAgain now => exact handleTxComplete_extends
    | sync now => exact sync_extends
    | terminal now => exact terminal_extends _ _
    | syncAgain now => exact sync_extends
    | startDue now =>
      unfold modbusMasterProcessStep
      dsimp only
      rcases startDueCycle_spec a now with he | ⟨force,-,he⟩
      · rw [he]
        exact .still rfl rfl
      · rw [he]
        exact .still rfl rfl
    | takeTest checked now => exact takeSelectedTest_extends checked now _

end Recording

theorem masterLoop_transaction (tick : Word32) (inputs : List MasterInput) :
    let a := (run masterLoopStep (masterStart tick) inputs).app
    a.transaction = run transactionStep (.initialized modbusMasterConfig) a.calls ∧
      ∀ c ∈ a.calls, c.Built := by
  refine run_invariant (fun m : MasterLoop => m.app.transaction =
    run transactionStep (.initialized modbusMasterConfig) m.app.calls ∧
      ∀ c ∈ m.app.calls, c.Built) (fun m x h => ?_) ?_ inputs
  · obtain ⟨events,hlog,ht,hbuilt⟩ := masterLoopStep_extends m x
    have hcalls : (masterLoopStep m x).2.app.calls =
        m.app.calls ++ events.filterMap MasterEvent.call? := by
      rw [MasterApp.calls,hlog,List.filterMap_append]
      rfl
    refine ⟨by rw [hcalls,ht,h.1,run_append],fun c hc => ?_⟩
    rw [hcalls] at hc
    exact (List.mem_append.mp hc).elim (h.2 c) (hbuilt c)
  · exact ⟨rfl,fun c hc => by cases hc⟩

/-! The same calls on the line. -/

def LineInput.call? (l : SerialLine) : LineInput → Option TransactionCall
  | .request b now answer =>
    some (.start (some b.request) (some (ofList b.adu)) b.adu.length now answer)
  | .poll now answer => some (.poll now answer)
  | .onTxComplete now => some (.onTxComplete now)
  | .onTxError now => some (.onTxError now)
  | .cancel => some .cancel
  | .reply _ heard now =>
    if heard then l.answers.head?.map fun p => .onResponse (some (ofList p.2)) p.2.length now
    else none
  | .masterNoise f now => some (.onResponse (some f.frame.request) f.frame.len now)
  | _ => none

def lineCalls (history : List LineRecord) : List TransactionCall :=
  history.filterMap fun r => r.input.call? r.before

inductive CallContent where
  | start (request : Option Request) (adu : Option (List Byte)) (length : Nat) (now : Word32)
      (transportResult : Int)
  | poll (now : Word32) (transportResult : Int)
  | onTxComplete (now : Word32)
  | onTxError (now : Word32)
  | onResponse (adu : Option (List Byte)) (length : Nat) (now : Word32)
  | cancel
  deriving DecidableEq, Repr

def TransactionCall.content : TransactionCall → CallContent
  | .start request adu length now answer =>
    .start request (adu.map fun m => slice m 0 length) length now answer
  | .poll now answer => .poll now answer
  | .onTxComplete now => .onTxComplete now
  | .onTxError now => .onTxError now
  | .onResponse adu length now => .onResponse (adu.map fun m => slice m 0 length) length now
  | .cancel => .cancel

def CallContent.call : CallContent → TransactionCall
  | .start request adu length now answer => .start request (adu.map ofList) length now answer
  | .poll now answer => .poll now answer
  | .onTxComplete now => .onTxComplete now
  | .onTxError now => .onTxError now
  | .onResponse adu length now => .onResponse (adu.map ofList) length now
  | .cancel => .cancel

section Calls
variable {cfg : Platform}

theorem lineStep_master (l : SerialLine) (x : LineInput) : (lineStep cfg l x).2.master =
    run transactionStep l.master (x.call? l).toList := by
  cases x with
  | transmit reach =>
    simp only [lineStep]
    split <;> rfl
  | reply reach heard now =>
    cases hanswers : l.answers with
    | nil => cases heard <;> simp [lineStep,LineInput.call?,hanswers,run]
    | cons p rest =>
      cases heard <;>
        simp [lineStep,LineInput.call?,hanswers,run,SerialLine.carry,SerialLine.call]
  | _ => rfl

theorem line_master (l : SerialLine) (inputs : List LineInput) :
    (run (lineStep cfg) l inputs).master =
      run transactionStep l.master (lineCalls (records (lineStep cfg) l inputs)) := by
  induction inputs generalizing l with
  | nil => rfl
  | cons x inputs ih =>
    show (run (lineStep cfg) (lineStep cfg l x).2 inputs).master = _
    rw [ih,lineStep_master,← run_append]
    simp only [lineCalls,records,List.filterMap_cons]
    cases x.call? l <;> rfl

theorem transactionStep_content (t : Transaction) {c : TransactionCall} (hbuilt : c.Built) :
    transactionStep t c.content.call = transactionStep t c := by
  cases c with
  | start request adu length now answer =>
    cases adu with
    | none => rfl
    | some adu =>
      obtain ⟨bytes,rfl,rfl⟩ := hbuilt
      simp only [TransactionCall.content,CallContent.call,Option.map_some,slice_ofList]
  | onResponse adu length now =>
    cases adu with
    | none => rfl
    | some adu =>
      have hslice : slice (ofList (slice adu 0 length)) 0 length = slice adu 0 length := by
        have h := slice_ofList (slice adu 0 length)
        rwa [slice_length] at h
      simp only [TransactionCall.content,CallContent.call,Option.map_some,transactionStep,
        Transaction.onResponse,Transaction.storeResponse,hslice]
  | _ => rfl

theorem run_content (t : Transaction) {cs : List TransactionCall} (hbuilt : ∀ c ∈ cs, c.Built) :
    run transactionStep t ((cs.map TransactionCall.content).map CallContent.call) =
      run transactionStep t cs := by
  induction cs generalizing t with
  | nil => rfl
  | cons c cs ih =>
    simp only [List.map_cons,run,transactionStep_content t (hbuilt c List.mem_cons_self),
      ih _ fun c hc => hbuilt c (List.mem_cons_of_mem _ hc)]

theorem lineCalls_built {l : SerialLine} {inputs : List LineInput} :
    ∀ c ∈ lineCalls (records (lineStep cfg) l inputs), c.Built := by
  intro c hc
  obtain ⟨r,-,hcall⟩ := List.mem_filterMap.mp hc
  obtain ⟨l,x,out,l'⟩ := r
  cases x with
  | request b now answer =>
    obtain rfl := Option.some.inj hcall
    exact ⟨b.adu,rfl,rfl⟩
  | reply reach heard now =>
    cases heard with
    | false => cases hcall
    | true =>
      obtain ⟨p,-,rfl⟩ := Option.map_eq_some_iff.mp hcall
      trivial
  | transmit | noise | serve | diagnose => cases hcall
  | _ =>
    obtain rfl := Option.some.inj hcall
    trivial

end Calls

/-! The results of the tests, in terms of what the slave holds. -/

def slaveReadings (cfg : Platform) (d : DataModel) : MasterReadings where
  coils i := mbGetCoil cfg d (BitVec.ofNat 16 i)
  discreteInputs i := mbGetDinput cfg d (BitVec.ofNat 16 i)
  holdingRegisters i := mbGetHreg cfg d (BitVec.ofNat 16 i)
  inputRegisters i := mbGetIreg cfg d (BitVec.ofNat 16 i)

def MasterReadings.SameBank (function : Byte) (r r' : MasterReadings) : Prop :=
  ∀ i, i < modbusMasterTestQuantity →
    match function.toNat with
    | 0x01 => r.coils i = r'.coils i
    | 0x02 => r.discreteInputs i = r'.discreteInputs i
    | 0x03 => r.holdingRegisters i = r'.holdingRegisters i
    | 0x04 => r.inputRegisters i = r'.inputRegisters i
    | _ => False

section Held
variable {cfg : Platform} {a : Byte}

theorem WireRequest.descriptor_read {w : WireRequest} {a' f : Byte} {start quantity : Word}
    (h : w.WellFormed a) (hf : f = 0x01#8 ∨ f = 0x02#8 ∨ f = 0x03#8 ∨ f = 0x04#8)
    (hd : w.descriptor a = (WireRequest.read f start quantity).descriptor a') :
    w = .read f start quantity ∧ a = a' := by
  have haddress : a = a' := by
    have h := congrArg Request.slaveAddress hd
    cases w <;> exact h
  have hfunction : (w.descriptor a).function = f := congrArg Request.function hd
  have hstart := congrArg Request.startAddress hd
  have hquantity := congrArg Request.quantity hd
  refine ⟨?_,haddress⟩
  rw [WireRequest.descriptor_function] at hfunction
  have hno {g : Byte} (hg : w.function = g)
      (hn : ¬ (g = 0x01#8 ∨ g = 0x02#8 ∨ g = 0x03#8 ∨ g = 0x04#8)) : False :=
    hn (by rw [← hg,hfunction]; exact hf)
  cases w with
  | read =>
    obtain rfl : _ = f := hfunction
    obtain rfl : _ = start := hstart
    obtain rfl : _ = quantity := hquantity
    rfl
  | writeSingle =>
    rcases h.2 with ⟨hg,-⟩ | hg
    · exact (hno hg (by decide)).elim
    · exact (hno hg (by decide)).elim
  | status =>
    have hm := h.2
    simp only [List.mem_cons,List.not_mem_nil,or_false] at hm
    rcases hm with hg | hg | hg <;> exact (hno hg (by decide)).elim
  | _ => exact (hno rfl (by simp [WireRequest.function])).elim

theorem Transaction.Decoded.viewed {t : Transaction} {r : MasterReadings} (h : t.Decoded r) :
    t.response.data.isSome = true := by
  have h0 := h 0 (by decide)
  cases hdata : t.response.data with
  | some => rfl
  | none =>
    have hbad : viewIsBad t.request t.response = true := by simp [viewIsBad,hdata]
    have hbit (index : Word) (b : Byte) :
        mbrtumGetBit t.request t.response t.responseAdu index ≠ .ok b := by
      simp only [mbrtumGetBit,hbad,if_true]
      split <;> simp
    have hregister (index w : Word) :
        mbrtumGetRegister t.request t.response t.responseAdu index ≠ .ok w := by
      simp only [mbrtumGetRegister,hbad,if_true]
      split <;> simp
    split at h0
    · exact absurd h0 (hbit _ _)
    · exact absurd h0 (hbit _ _)
    · exact absurd h0 (hregister _ _)
    · exact absurd h0 (hregister _ _)
    · exact h0.elim

theorem Transaction.Decoded.sameBank {t : Transaction} {r : MasterReadings} {f : Byte} {s : Slave}
    {answer : Mem Byte} (hdecoded : t.Decoded r) (hfunction : t.request.function = f)
    (hf : f = 0x01#8 ∨ f = 0x02#8 ∨ f = 0x03#8 ∨ f = 0x04#8)
    (hsame : SameDecodings t.request t.response t.responseAdu answer)
    (hdelivered : ReadDelivered cfg s f 0#16 10#16 t.request answer t.response) :
    r.SameBank f (slaveReadings cfg s.server.data) := by
  intro i hi
  have hdecoded := hdecoded i hi
  rw [hfunction] at hdecoded
  have hindex : (BitVec.ofNat 16 i).toNat = i := by
    simp only [modbusMasterTestQuantity] at hi
    simp only [BitVec.toNat_ofNat]
    omega
  have helement : elementAddress 0#16 i = BitVec.ofNat 16 i := BitVec.zero_add _
  have hi : i < 10 := hi
  unfold ReadDelivered at hdelivered
  rcases hf with rfl | rfl | rfl | rfl
  · have hyields := hdelivered (BitVec.ofNat 16 i)
    rw [← hsame.bit,hdecoded,hindex] at hyields
    simpa [heldBits,hi,helement,slaveReadings] using hyields
  · have hyields := hdelivered (BitVec.ofNat 16 i)
    rw [← hsame.bit,hdecoded,hindex] at hyields
    simpa [heldBits,hi,helement,slaveReadings] using hyields
  · have hyields := hdelivered (BitVec.ofNat 16 i)
    rw [← hsame.register,hdecoded,hindex] at hyields
    simpa [heldRegisters,hi,helement,slaveReadings] using hyields
  · have hyields := hdelivered (BitVec.ofNat 16 i)
    rw [← hsame.register,hdecoded,hindex] at hyields
    simpa [heldRegisters,hi,helement,slaveReadings] using hyields

/-- The comparison looks at the bank that the read-back reads. -/
theorem TestCycle.comparison_sameBank {c : TestCycle} {r r' : MasterReadings} {f : Byte}
    (hf : c.readbackCall.wire.function = f) (h : r.SameBank f r') :
    c.comparison r = c.comparison r' := by
  subst hf
  have h0 := h 0 (by decide)
  unfold TestCycle.comparison
  by_cases h05 : c.currentTest = .fc05
  · rw [if_pos h05,if_pos h05]
    rw [TestCycle.readbackCall,if_pos (.inl h05)] at h0
    rw [show r.coils 0 = r'.coils 0 from h0]
  rw [if_neg h05,if_neg h05]
  by_cases h0F : c.currentTest = .fc0F
  · rw [if_pos h0F,if_pos h0F]
    rw [TestCycle.readbackCall,if_pos (.inr h0F)] at h
    refine List.map_congr_left fun i hi => ?_
    rw [show r.coils i = r'.coils i from h i (List.mem_range.mp hi)]
  rw [if_neg h0F,if_neg h0F]
  rw [TestCycle.readbackCall,if_neg (not_or.mpr ⟨h05,h0F⟩)] at h h0
  split
  · rw [show r.holdingRegisters 0 = r'.holdingRegisters 0 from h0]
  · refine List.map_congr_left fun i hi => ?_
    rw [show r.holdingRegisters i = r'.holdingRegisters i from h i (List.mem_range.mp hi)]

end Held

/-- The harness has made the calls that the line has seen. -/
def OnLine (a : MasterApp) (history : List LineRecord) : Prop :=
  a.calls.map TransactionCall.content = (lineCalls history).map TransactionCall.content

structure ResultHeld (cfg : Platform) (a : MasterApp) (d : DataModel) : Prop where
  readings : ∃ call, a.cycle.finalCall = some call ∧
    a.readings.SameBank call.wire.function (slaveReadings cfg d)
  pass : a.cycle.lastResult = .pass → modbusMasterTestIsWrite a.cycle.currentTest = true →
    ∀ p ∈ a.cycle.comparison (slaveReadings cfg d), p.1 = p.2
  verifyError : a.cycle.lastResult = .verifyError →
    modbusMasterTestIsWrite a.cycle.currentTest = true ∧ a.cycle.Mismatch (slaveReadings cfg d)

section Results
variable {cfg : Platform} {a : MasterApp} {l : SerialLine} {history : List LineRecord}

theorem BuildCall.isHarnessRead.wire {call : BuildCall} (h : call.isHarnessRead) :
    ∃ f, (f = 0x01#8 ∨ f = 0x02#8 ∨ f = 0x03#8 ∨ f = 0x04#8) ∧
      call.wire = .read f 0#16 10#16 ∧ call.slaveAddress = 1#8 := by
  cases call with
  | readBits =>
    obtain ⟨rfl,hf,rfl,rfl⟩ := h
    exact ⟨_,by tauto,rfl,rfl⟩
  | readRegisters =>
    obtain ⟨rfl,hf,rfl,rfl⟩ := h
    exact ⟨_,by tauto,rfl,rfl⟩
  | _ => exact absurd h id

theorem requestCall_valid {c : TestCycle} {call : BuildCall} (hcall : c.requestCall = some call) :
    modbusMasterTestIsValid c.currentTest = true := by
  by_contra hinvalid
  simp only [modbusMasterTestIsValid,decide_eq_true_eq,not_or] at hinvalid
  obtain ⟨h1,h2,h3,h4,h5,h6,hF,h10⟩ := hinvalid
  simp [TestCycle.requestCall,h1,h2,h3,h4,h5,h6,hF,h10] at hcall

theorem finalCall_isHarnessRead {c : TestCycle} {call : BuildCall}
    (hcall : c.finalCall = some call) : call.isHarnessRead := by
  unfold TestCycle.finalCall at hcall
  split at hcall
  · obtain rfl := Option.some.inj hcall
    exact readbackCall_isHarnessRead c
  · rename_i hread
    exact requestCall_isHarnessRead (requestCall_valid hcall) hread hcall

theorem MasterApp.Completed.held (h : a.Completed)
    (hline : LineInvariant cfg modbusMasterConfig l history) (hmaster : l.master = a.transaction) :
    ∃ q rest b r policy answer, lineTransaction history = q :: rest ∧ b.address = 1#8 ∧
      AnsweredIn cfg l rest b r policy answer ∧ ∃ call, a.cycle.finalCall = some call ∧
        a.readings.SameBank call.wire.function
          (slaveReadings cfg (r.before.slaves 1#8).server.data) := by
  obtain ⟨hresult,⟨final,hfinal,hcarries⟩,hdecoded⟩ := h
  have hbegun : l.master.state ≠ .idle := by
    intro hidle
    have hnone := (hline.fresh hidle).2.2.1
    rw [hmaster,hresult] at hnone
    cases hnone
  obtain ⟨q,rest,b,hcurrent,hin⟩ := hline.current hbegun
  obtain ⟨f,hf,hwire,haddress⟩ := (finalCall_isHarnessRead hfinal).wire
  -- the request on the line is the one that the harness has built
  have hrequest : b.request = final.request := by
    rw [← hin.request,hmaster,hcarries.request]
  have hdescriptor : b.wire.descriptor b.address = (WireRequest.read f 0#16 10#16).descriptor 1#8 := by
    rw [← b.request_eq,hrequest,final.request_eq]
    show final.call.wire.descriptor final.call.slaveAddress = _
    rw [hwire,haddress]
  obtain ⟨hread,hslave⟩ := WireRequest.descriptor_read b.wellFormed hf hdescriptor
  have hexpects : b.request.expectsResponse ≠ 0#8 := by
    rw [b.request_eq,hdescriptor]
    show (1#8 : Byte) ≠ 0#8
    decide
  obtain ⟨r,policy,answer,hanswered,hdelivered,hsame⟩ :=
    hin.resultsTrue.success (hmaster ▸ hresult) hexpects
  rw [hread,hslave] at hdelivered
  have hsame := hsame (hmaster ▸ hdecoded.viewed)
  have hown : a.transaction.request = b.request := by rw [hrequest,hcarries.request]
  refine ⟨q,rest,b,r,policy,answer,hcurrent,hslave,hanswered,final.call,hfinal,?_⟩
  have hview : SameDecodings a.transaction.request a.transaction.response
      a.transaction.responseAdu (ofList answer) := by
    rw [hown,← hmaster]
    exact hsame
  rw [hwire]
  refine hdecoded.sameBank ?_ hf hview ?_
  · rw [hown,b.request_eq,hdescriptor]
    rfl
  · rw [hown,b.request_eq,hdescriptor,← hmaster]
    exact hdelivered

theorem TestCycle.finalCall_write (c : TestCycle)
    (h : modbusMasterTestIsWrite c.currentTest = true) :
    c.finalCall = some c.readbackCall := if_pos h

theorem TestCycle.Mismatch.congr {c : TestCycle} {r r' : MasterReadings} (h : c.Mismatch r)
    (heq : c.comparison r = c.comparison r') : c.Mismatch r' := by
  unfold TestCycle.Mismatch at h ⊢
  rwa [← heq]

theorem MasterApp.Sound.held (h : a.Sound)
    (hresult : a.cycle.lastResult = .pass ∨ a.cycle.lastResult = .verifyError)
    (hline : LineInvariant cfg modbusMasterConfig l history) (hmaster : l.master = a.transaction) :
    ∃ q rest b r policy answer, lineTransaction history = q :: rest ∧ b.address = 1#8 ∧
      AnsweredIn cfg l rest b r policy answer ∧
        ResultHeld cfg a (r.before.slaves 1#8).server.data := by
  have hrest : a.cycle.active = 0#8 := by
    by_contra hactive
    have hnone := (h.running hactive).unreported
    rcases hresult with hr | hr <;> rw [hr] at hnone <;> cases hnone
  have hreports := (h.resting hrest).reports
  have hcompleted : a.Completed := by
    rcases hresult with hr | hr <;> rw [hr] at hreports
    · exact hreports.1
    · exact hreports.1
  obtain ⟨q,rest,b,r,policy,answer,hcurrent,hslave,hanswered,call,hcall,hbank⟩ :=
    hcompleted.held hline hmaster
  have hcomparison (hwrite : modbusMasterTestIsWrite a.cycle.currentTest = true) :
      a.cycle.comparison a.readings =
        a.cycle.comparison (slaveReadings cfg (r.before.slaves 1#8).server.data) := by
    rw [a.cycle.finalCall_write hwrite] at hcall
    obtain rfl := Option.some.inj hcall
    exact TestCycle.comparison_sameBank rfl hbank
  refine ⟨q,rest,b,r,policy,answer,hcurrent,hslave,hanswered,⟨call,hcall,hbank⟩,
    fun hpass hwrite => ?_,fun hfailed => ?_⟩
  · rw [hpass] at hreports
    rw [← hcomparison hwrite]
    exact hreports.2 hwrite
  · rw [hfailed] at hreports
    exact ⟨hreports.2.1,hreports.2.2.congr (hcomparison hreports.2.1)⟩

theorem onLine_master {tick : Word32} {inputs : List MasterInput} {lineInputs : List LineInput}
    (hinit : l.Initial modbusMasterConfig)
    (hcalls : OnLine (run masterLoopStep (masterStart tick) inputs).app
      (records (lineStep cfg) l lineInputs)) :
    (run (lineStep cfg) l lineInputs).master =
      (run masterLoopStep (masterStart tick) inputs).app.transaction := by
  have hstart : l.master = .initialized modbusMasterConfig := by
    have h := hinit.master
    exact (Except.ok.inj h).symm
  obtain ⟨ht,hbuilt⟩ := masterLoop_transaction tick inputs
  rw [line_master,hstart,ht,← run_content _ hbuilt,hcalls,run_content _ lineCalls_built]

end Results

instance (r : LineRecord) : Decidable (QuietStart r) :=
  inferInstanceAs (Decidable (r.opens = true → r.before.requests = [] ∧ r.before.answers = []))

/-! A write test that passes, as an instance. -/

def loopOnce (now : Word32) : List MasterInput :=
  List.replicate 11 (.process ⟨false,true,now,⟨⟨[],true,now⟩,[],[]⟩⟩)

def frameArrives (adu : List Byte) : List MasterInput :=
  (adu.map fun byte => .interrupt (.rxComplete byte true)) ++ List.replicate 35 (.interrupt .tick)

def harnessWrite : BuiltCall :=
  ⟨.writeSingleRegister 1#8 0#16 0x1234#16,modbusMasterRequestBuffer,by decide +kernel⟩

def harnessRead : BuiltCall :=
  ⟨.readRegisters 1#8 0x03#8 0#16 10#16,modbusMasterRequestBuffer,by decide +kernel⟩

def harnessReadback : List Byte := appendCrc ([1#8,0x03#8,20#8,0x12#8,0x34#8] ++ List.replicate 18 0#8)

def writePasses : List MasterInput :=
  .edit { MasterApp.powerOn.settings with selectedTest := .fc06 } :: loopOnce 600 ++
    frameArrives harnessWrite.adu ++ loopOnce 610 ++ frameArrives harnessReadback ++ loopOnce 620

def writeOnLine : List LineInput :=
  [.poll 600 0,.request harnessWrite 600 0,.onTxComplete 600,.transmit (heardAt 1#8),
    .reply (heardAt 1#8) true 610,.poll 610 0,.request harnessRead 610 0,.onTxComplete 610,
    .transmit (heardAt 1#8),.reply (heardAt 1#8) true 620,.poll 620 0]

def harnessLine : SerialLine :=
  ⟨.initialized modbusMasterConfig,fun _ => .initial Server.zeroed.data false,[],[]⟩

theorem harnessLine_initial : harnessLine.Initial modbusMasterConfig :=
  ⟨rfl,fun _ => ⟨Server.zeroed.data,false,rfl,rfl⟩,rfl,rfl⟩

/-- On a line that is quiet whenever a transaction begins, the harness tells the truth about the
slave: the values that it has read are the ones that the slave held when it answered the last
read of the test; a write test passes only if these are the written values, and fails its
verification only if they are not, at the position and with the values that are on record. -/
theorem harness_results_held (cfg : Platform) (tick : Word32) (inputs : List MasterInput)
    (l : SerialLine) (hinit : l.Initial modbusMasterConfig) (lineInputs : List LineInput)
    (hquiet : ∀ r ∈ records (lineStep cfg) l lineInputs, QuietStart r)
    (hcalls : OnLine (run masterLoopStep (masterStart tick) inputs).app
      (records (lineStep cfg) l lineInputs))
    (hresult : (run masterLoopStep (masterStart tick) inputs).app.cycle.lastResult = .pass ∨
      (run masterLoopStep (masterStart tick) inputs).app.cycle.lastResult = .verifyError) :
    ∃ q rest b r policy answer,
      lineTransaction (records (lineStep cfg) l lineInputs) = q :: rest ∧ b.address = 1#8 ∧
        AnsweredIn cfg (run (lineStep cfg) l lineInputs) rest b r policy answer ∧
          ResultHeld cfg (run masterLoopStep (masterStart tick) inputs).app
            (r.before.slaves 1#8).server.data :=
  (masterLoop_sound tick inputs).app.held hresult (lineInvariant_run hinit lineInputs hquiet)
    (onLine_master hinit hcalls)

theorem harness_results_held_write :
    (run masterLoopStep (masterStart 0) writePasses).app.cycle.lastResult = .pass ∧
    ∃ q rest b r policy answer,
      lineTransaction (records (lineStep .standard) harnessLine writeOnLine) = q :: rest ∧
        b.address = 1#8 ∧
        AnsweredIn .standard (run (lineStep .standard) harnessLine writeOnLine) rest b r policy
          answer ∧
          ResultHeld .standard (run masterLoopStep (masterStart 0) writePasses).app
            (r.before.slaves 1#8).server.data := by
  have hpass : (run masterLoopStep (masterStart 0) writePasses).app.cycle.lastResult = .pass := by
    decide +kernel
  have hcalls : (run masterLoopStep (masterStart 0) writePasses).app.calls.map
      TransactionCall.content = (lineCalls (records (lineStep .standard) harnessLine
        writeOnLine)).map TransactionCall.content := by
    decide +kernel
  exact ⟨hpass,harness_results_held .standard 0 writePasses harnessLine harnessLine_initial writeOnLine
    (by decide +kernel) hcalls (.inl hpass)⟩

end ModbusStack
