import ModbusStack.MasterOnLine

/-! The write tests of the harness: a value is read back only after the slave has acknowledged
it. -/
set_option autoImplicit false

namespace ModbusStack
open ByteMemory Machine

/-! What the statements of the main loop do to the test cycle. -/

inductive CycleMoves (a : MasterApp) : MasterApp → Prop
  | same (a' : MasterApp) (hs : a.SameCycle a') : CycleMoves a a'
  | refused (a' : MasterApp)
      (hresult : a'.cycle.lastResult = .invalidTest ∨ a'.cycle.lastResult = .buildError)
      (hstep : a'.cycle.testStep = .idle) : CycleMoves a a'
  | started (a' : MasterApp) (hstep : a'.cycle.testStep = .request) : CycleMoves a a'
  | readback (a' : MasterApp) (hactive : a.cycle.active ≠ 0#8)
      (hsuccess : a.transaction.result = .success) (hstep : a.cycle.testStep = .request)
      (htest : a.cycle.SameTest a'.cycle)
      (hselections : a'.selections = a.selections) :
      CycleMoves a a'
  | finished (a' : MasterApp) (result : TestResult) (hresult : a'.cycle.lastResult = result)
      (hstep : a'.cycle.testStep = .idle) (htest : a.cycle.SameTest a'.cycle)
      (hselections : a'.selections = a.selections)
      (hverified : result = .pass ∨ result = .verifyError →
        modbusMasterTestIsWrite a.cycle.currentTest = true → a.cycle.testStep = .verifyReadback) :
      CycleMoves a a'

section Moving
variable {a a' a'' : MasterApp}

theorem MasterApp.Poised.start_sameCycle (h : a.Poised) (now : Word32) (x : StartHardware) :
    MasterApp.SameCycle { a with cycle := (modbusMasterBuildRequest a.cycle a.settings).2 }
      (modbusMasterStartCurrentStep a now x) := by
  obtain ⟨b,-,he⟩ := h.start_eq now x
  have hcalled := call_sameCycle { a with cycle := (modbusMasterBuildRequest a.cycle a.settings).2 }
    x.transmission (.start (some b.request) (some (ofList b.adu)) b.adu.length now)
  rw [he]
  exact (((hcalled.trans (interrupted_sameCycle _ _)).trans (handleTxComplete_sameCycle _)).trans
    (interrupted_sameCycle _ _)).trans (sync_sameCycle _).1

theorem finishCycle_cycle (a : MasterApp) (result : TestResult) (now : Word32) :
    (modbusMasterFinishCycle a result now).cycle.lastResult = result ∧
      (modbusMasterFinishCycle a result now).cycle.testStep = .idle ∧
        a.cycle.SameTest (modbusMasterFinishCycle a result now).cycle := by
  unfold modbusMasterFinishCycle
  dsimp only [MasterApp.emit]
  split <;> exact ⟨rfl,rfl,rfl,rfl⟩

theorem CycleMoves.finish {result : TestResult} (now : Word32)
    (htest : a.cycle.SameTest a'.cycle) (hlog : a'.log = a.log)
    (hverified : result = .pass ∨ result = .verifyError →
      modbusMasterTestIsWrite a.cycle.currentTest = true → a.cycle.testStep = .verifyReadback) :
    CycleMoves a (modbusMasterFinishCycle a' result now) := by
  obtain ⟨hresult,hstep,hsame⟩ := finishCycle_cycle a' result now
  refine .finished _ result hresult hstep ⟨?_,?_⟩ ?_ hverified
  · exact hsame.currentTest.trans htest.currentTest
  · exact hsame.requestCall.trans htest.requestCall
  · rw [finishCycle_selections,MasterApp.selections,MasterApp.cycles,hlog]
    rfl

theorem terminal_moves (h : a.Sound) (now : Word32) (x : StartHardware) :
    CycleMoves a (modbusMasterHandleTerminalTransaction a now x) := by
  have hhandled := terminal_handled a now x
  by_cases hactive : a.cycle.active = 0#8
  · rw [show modbusMasterHandleTerminalTransaction a now x = a from if_pos hactive]
    exact .same a ⟨rfl,rfl,rfl⟩
  generalize modbusMasterHandleTerminalTransaction a now x = a' at hhandled ⊢
  cases hhandled with
  | kept => exact .same a ⟨rfl,rfl,rfl⟩
  | ended b result huart ht hlog htest hstate hread =>
    refine .finish now htest hlog fun hverified hwrite => ?_
    rcases (h.running hactive).step with hstep | ⟨hstep,-⟩
    · exact absurd ⟨hstep,hwrite⟩ (hread hverified)
    · exact hstep
  | readback _ hcomplete hsuccess hstep hwrite =>
    have hstart := (h.readback hactive hcomplete hwrite).start_sameCycle now x
    refine .readback _ hactive hsuccess hstep ⟨?_,?_⟩ hstart.selections
    · rw [hstart.cycle]
      rfl
    · rw [hstart.cycle]
      rfl

theorem takeSelectedTest_moves (h : a.Sound) (hactive : a.cycle.active = 0#8) (checked : MasterTest)
    (now : Word32) (x : StartHardware) : CycleMoves a (takeSelectedTest a checked now x) := by
  by_cases hvalid : modbusMasterTestIsValid checked = true
  · cases htest : modbusMasterTestIsValid a.settings.selectedTest with
    | true =>
      rw [takeSelectedTest_valid hvalid]
      have hpoised := h.beginTest hactive checked htest
      obtain ⟨b,-,-,-,-,-,hsame⟩ := modbusMasterBuildRequest_spec (beginTest a checked).cycle
        (beginTest a checked).settings hpoised.valid
      refine .started _ ?_
      rw [(hpoised.start_sameCycle now x).cycle]
      exact hsame.testStep
    | false =>
      rw [takeSelectedTest_spoilt hvalid htest]
      exact .refused _ (.inr rfl) rfl
  · rw [show takeSelectedTest a checked now x = refuseTest a checked now from if_pos hvalid]
    exact .refused _ (.inl rfl) (h.resting hactive).step

theorem masterLoopStep_moves {m : MasterLoop} (h : m.Sound) (x : MasterInput) :
    CycleMoves m.app (masterLoopStep m x).2.app := by
  cases x with
  | interrupt i => exact .same _ (interrupted_sameCycle _ _)
  | edit settings => exact .same _ ⟨rfl,rfl,rfl⟩
  | requestNow => exact .same _ ⟨rfl,rfl,rfl⟩
  | process hardware =>
    show CycleMoves m.app (modbusMasterProcessStep m hardware).app
    obtain ⟨a,phase⟩ := m
    have ha : a.Sound := h.app
    cases phase with
    | outside =>
      unfold modbusMasterProcessStep
      dsimp only
      split <;> exact .same _ ⟨rfl,rfl,rfl⟩
    | txComplete => exact .same _ (handleTxComplete_sameCycle _)
    | takeFrame =>
      have htaken := takeFrame_sameCycle a
      unfold modbusMasterProcessStep
      dsimp only
      generalize takePendingFrame a = out at htaken
      obtain ⟨f,a'⟩ := out
      cases f <;> exact .same _ htaken
    | handFrame f now => exact .same _ (handFrame_sameCycle _ _ _)
    | uartError now =>
      have htaken := takeUartError_sameCycle a
      unfold modbusMasterProcessStep
      dsimp only
      generalize takeUartError a = out at htaken
      obtain ⟨noted,a'⟩ := out
      cases noted <;> exact .same _ htaken
    | resetReceiver now => exact .same _ ⟨rfl,rfl,rfl⟩
    | reportError now => exact .same _ (reportUartError_sameCycle _ _)
    | poll now => exact .same _ (call_sameCycle _ _ _)
    | txCompleteAgain now => exact .same _ (handleTxComplete_sameCycle _)
    | sync now => exact .same _ (sync_sameCycle _).1
    | terminal now => exact terminal_moves ha _ _
    | syncAgain now => exact .same _ (sync_sameCycle _).1
    | startDue now =>
      unfold modbusMasterProcessStep
      dsimp only
      rcases startDueCycle_spec a now with he | ⟨force,-,he⟩
      · rw [he]
        exact .same _ ⟨rfl,rfl,rfl⟩
      · rw [he]
        exact .same _ ⟨rfl,rfl,rfl⟩
    | takeTest checked now =>
      exact takeSelectedTest_moves ha (h.taking checked now rfl) checked now hardware.start

end Moving

/-! Acknowledged writes. -/

namespace MasterApp

/-- The values of a write test are being read back, or have been. -/
def Verifying (a : MasterApp) : Prop :=
  a.cycle.testStep = .verifyReadback ∨ a.cycle.testStep = .idle ∧
    modbusMasterTestIsWrite a.cycle.currentTest = true ∧
      (a.cycle.lastResult = .pass ∨ a.cycle.lastResult = .verifyError)

/-- Since the last cycle began, the object has stood at the success of a write of the values that
are expected. -/
def Acknowledged (a : MasterApp) : Prop :=
  ∃ before after, a.log = before ++ after ∧ (∀ e ∈ after, e.isStarted = false) ∧
    ∃ b : BuiltCall, a.cycle.requestCall = some b.call ∧
      let t := run transactionStep (.initialized modbusMasterConfig)
        (before.filterMap MasterEvent.call?)
      t.result = .success ∧ t.Carries b

end MasterApp

section Acknowledging
variable {a a' : MasterApp}

theorem MasterApp.Acknowledged.extend (h : a.Acknowledged) (he : a.Extends a')
    (hcall : a'.cycle.requestCall = a.cycle.requestCall)
    (hselections : a'.selections = a.selections) : a'.Acknowledged := by
  obtain ⟨before,after,hlog,hafter,b,hb,ht⟩ := h
  obtain ⟨events,hlog',-⟩ := he
  refine ⟨before,after ++ events,by rw [hlog',hlog,List.append_assoc],fun e hmem => ?_,b,
    hcall.trans hb,ht⟩
  unfold MasterApp.selections MasterApp.cycles at hselections
  rw [hlog',List.filter_append,List.filterMap_append] at hselections
  have hnone := List.append_right_eq_self.mp hselections
  rcases List.mem_append.mp hmem with hmem | hmem
  · exact hafter e hmem
  · cases e with
    | cycleStarted checked test =>
      have hselection := List.filterMap_eq_nil_iff.mp hnone (.cycleStarted checked test)
        (List.mem_filter.mpr ⟨hmem,rfl⟩)
      cases hselection
    | _ => rfl

structure MasterApp.WellTested (a : MasterApp) : Prop where
  sound : a.Sound
  transaction : a.transaction = run transactionStep (.initialized modbusMasterConfig) a.calls
  acknowledged : a.Verifying → a.Acknowledged

theorem CycleMoves.acknowledged (hm : CycleMoves a a') (he : a.Extends a') (h : a.WellTested)
    (hverifying : a'.Verifying) : a'.Acknowledged := by
  cases hm with
  | same hs =>
    have hbefore : a.Verifying := by
      unfold MasterApp.Verifying at hverifying ⊢
      rwa [hs.cycle] at hverifying
    exact (h.acknowledged hbefore).extend he (by rw [hs.cycle]) hs.selections
  | refused hresult hstep =>
    rcases hverifying with hv | ⟨-,-,hv⟩
    · rw [hstep] at hv
      cases hv
    · rcases hresult with hr | hr <;> rw [hr] at hv <;> rcases hv with hv | hv <;> cases hv
  | started hstep =>
    rcases hverifying with hv | ⟨hv,-⟩ <;> rw [hstep] at hv <;> cases hv
  | readback hactive hsuccess hstep htest hselections =>
    obtain ⟨b,hcall,hcarries⟩ := (h.sound.running hactive).carries
    have hrequest : a.cycle.requestCall = some b.call := by
      rw [← hcall]
      simp [TestCycle.sentCall,hstep]
    refine MasterApp.Acknowledged.extend (a := a) ?_ he htest.requestCall hselections
    refine ⟨a.log,[],by simp,by simp,b,hrequest,?_⟩
    have ht := h.transaction
    unfold MasterApp.calls at ht
    rw [← ht]
    exact ⟨hsuccess,hcarries⟩
  | finished result hresult hstep htest hselections hverified =>
    have hbefore : a.Verifying := by
      rcases hverifying with hv | ⟨-,hwrite,hv⟩
      · rw [hstep] at hv
        cases hv
      · rw [hresult] at hv
        rw [htest.currentTest] at hwrite
        exact .inl (hverified hv hwrite)
    exact (h.acknowledged hbefore).extend he htest.requestCall hselections

theorem masterLoop_wellTested (tick : Word32) (inputs : List MasterInput) :
    (run masterLoopStep (masterStart tick) inputs).app.WellTested := by
  refine (run_invariant (fun m : MasterLoop => m.Sound ∧ m.app.WellTested)
    (fun m x ⟨hs,h⟩ => ?_) ⟨masterStart_sound tick,?_⟩ inputs).2
  · have he := masterLoopStep_extends m x
    have hm := masterLoopStep_moves hs x
    refine ⟨hs.step x,(hs.step x).app,?_,fun hv => hm.acknowledged he h hv⟩
    obtain ⟨events,hlog,ht,-⟩ := he
    rw [ht,h.transaction,MasterApp.calls,MasterApp.calls,hlog,List.filterMap_append,run_append]
  · refine ⟨(modbusMasterInit_sound tick).2.1,rfl,fun hv => ?_⟩
    have hstep : (masterStart tick).app.cycle.testStep = .idle := rfl
    have hresult : (masterStart tick).app.cycle.lastResult = .none := rfl
    rcases hv with hv | ⟨-,-,hv⟩
    · rw [hstep] at hv
      cases hv
    · rw [hresult] at hv
      rcases hv with hv | hv <;> cases hv

end Acknowledging

/-! The write on the line. -/

section Executing
variable {cfg : Platform}

/-- A run of the line has a prefix for every prefix of its calls. -/
theorem lineCalls_split {l : SerialLine} {inputs : List LineInput} {before after : List CallContent}
    (h : (lineCalls (records (lineStep cfg) l inputs)).map TransactionCall.content =
      before ++ after) :
    ∃ xs ys, inputs = xs ++ ys ∧
      (lineCalls (records (lineStep cfg) l xs)).map TransactionCall.content = before := by
  induction inputs generalizing l before with
  | nil =>
    obtain ⟨rfl,-⟩ := List.append_eq_nil_iff.mp h.symm
    exact ⟨[],[],rfl,rfl⟩
  | cons x inputs ih =>
    cases before with
    | nil => exact ⟨[],x :: inputs,rfl,rfl⟩
    | cons content before =>
      have hcons (ys : List LineInput) : lineCalls (records (lineStep cfg) l (x :: ys)) =
          (x.call? l).toList ++ lineCalls (records (lineStep cfg) (lineStep cfg l x).2 ys) := by
        simp only [lineCalls,records,List.filterMap_cons]
        cases x.call? l <;> rfl
      rw [hcons,List.map_append] at h
      cases hcall : x.call? l with
      | none =>
        rw [hcall] at h
        obtain ⟨xs,ys,rfl,hxs⟩ := ih h
        exact ⟨x :: xs,ys,rfl,by rw [hcons,hcall]; exact hxs⟩
      | some c =>
        rw [hcall] at h
        obtain ⟨hc,h⟩ := List.cons.inj h
        obtain ⟨xs,ys,rfl,hxs⟩ := ih h
        exact ⟨x :: xs,ys,rfl,by rw [hcons,hcall,← hxs,← hc]; rfl⟩

theorem requestCall_slaveAddress {c : TestCycle} {call : BuildCall}
    (hcall : c.requestCall = some call) : call.slaveAddress = 1#8 := by
  unfold TestCycle.requestCall at hcall
  split_ifs at hcall <;> (obtain rfl := Option.some.inj hcall; rfl)

theorem requestCall_expectsResponse {c : TestCycle} {call : BuildCall}
    (hcall : c.requestCall = some call) :
    (call.wire.descriptor call.slaveAddress).expectsResponse = 1#8 := by
  unfold TestCycle.requestCall at hcall
  split_ifs at hcall <;> (obtain rfl := Option.some.inj hcall; rfl)

end Executing

/-- The slave has carried out the write of a test, perhaps more than once: the first half of the run
ends with the success of a transaction with this frame, which the slave has answered in it, and
whose effect is that of one execution. -/
structure WriteExecuted (cfg : Platform) (l : SerialLine) (first : List LineInput)
    (adu : List Byte) (q : LineRecord) (rest : List LineRecord) (b : BuiltCall) : Prop where
  transaction : lineTransaction (records (lineStep cfg) l first) = q :: rest
  success : (run (lineStep cfg) l first).master.result = .success
  frame : b.adu = adu
  slave : b.address = 1#8
  expects : b.request.expectsResponse ≠ 0#8
  answered : ∃ r policy answer, AnsweredIn cfg (run (lineStep cfg) l first) rest b r policy answer
  effect : EffectOnce cfg modbusMasterConfig (run (lineStep cfg) l first) q rest b

theorem MasterApp.Acknowledged.executed {cfg : Platform} {a : MasterApp} {l : SerialLine}
    {lineInputs : List LineInput} (h : a.Acknowledged) (hbuilt : ∀ c ∈ a.calls, c.Built)
    (hinit : l.Initial modbusMasterConfig)
    (hquiet : ∀ r ∈ records (lineStep cfg) l lineInputs, QuietStart r)
    (hcalls : OnLine a (records (lineStep cfg) l lineInputs)) :
    ∃ first second q rest b, ∃ made : BuiltCall, lineInputs = first ++ second ∧
      a.cycle.requestCall = some made.call ∧ WriteExecuted cfg l first made.adu q rest b := by
  obtain ⟨before,after,hlog,-,made,hcall,hsuccess,hcarries⟩ := h
  have hcontents := hcalls
  unfold OnLine MasterApp.calls at hcontents
  rw [hlog,List.filterMap_append,List.map_append] at hcontents
  obtain ⟨first,second,rfl,hfirst⟩ := lineCalls_split hcontents.symm
  have hbefore : ∀ c ∈ before.filterMap MasterEvent.call?, c.Built := by
    intro c hc
    refine hbuilt c ?_
    rw [MasterApp.calls,hlog,List.filterMap_append]
    exact List.mem_append_left _ hc
  have hmaster : (run (lineStep cfg) l first).master = run transactionStep
      (.initialized modbusMasterConfig) (before.filterMap MasterEvent.call?) := by
    have hstart : l.master = .initialized modbusMasterConfig := (Except.ok.inj hinit.master).symm
    rw [line_master,hstart,← run_content _ hbefore,← hfirst,run_content _ lineCalls_built]
  have hline := lineInvariant_run hinit first fun r hr => hquiet r (by
    rw [records_append]
    exact List.mem_append_left _ hr)
  rw [← hmaster] at hsuccess hcarries
  have hbegun : (run (lineStep cfg) l first).master.state ≠ .idle := by
    intro hidle
    have hnone := (hline.fresh hidle).2.2.1
    rw [hsuccess] at hnone
    cases hnone
  obtain ⟨q,rest,b,hcurrent,hin⟩ := hline.current hbegun
  have hlength : b.adu.length = made.adu.length := by rw [← hin.length,hcarries.length]
  have hadu : b.adu = made.adu := by rw [← hin.adu,hlength,hcarries.adu]
  have hrequest : b.request = made.request := by rw [← hin.request,hcarries.request]
  have haddress : b.address = made.address := by
    rw [b.request_eq,made.request_eq] at hrequest
    have h := congrArg Request.slaveAddress hrequest
    rwa [WireRequest.descriptor_slaveAddress,WireRequest.descriptor_slaveAddress] at h
  have hexpects : b.request.expectsResponse ≠ 0#8 := by
    rw [hrequest,made.request_eq]
    show (made.call.wire.descriptor made.call.slaveAddress).expectsResponse ≠ 0#8
    rw [requestCall_expectsResponse hcall]
    decide
  obtain ⟨r,policy,answer,hanswered,-⟩ := hin.resultsTrue.success hsuccess hexpects
  exact ⟨first,second,q,rest,b,made,rfl,hcall,{
    transaction := hcurrent
    success := hsuccess
    frame := hadu
    slave := haddress.trans (requestCall_slaveAddress hcall)
    expects := hexpects
    answered := ⟨r,policy,answer,hanswered⟩
    effect := hin.effectOnce hline.retries }⟩

/-- A write test of the harness verifies only what slave 1 has carried out: on a line that is quiet
whenever a transaction begins, the values that a pass or a failed verification speaks of were sent
to the slave in a transaction of this run that ended with success. The slave has answered this
request, and if its own program was idle its data model then was what one execution makes it,
however often the request was repeated. -/
theorem harness_write_executed (cfg : Platform) (tick : Word32) (inputs : List MasterInput)
    (l : SerialLine) (hinit : l.Initial modbusMasterConfig) (lineInputs : List LineInput)
    (hquiet : ∀ r ∈ records (lineStep cfg) l lineInputs, QuietStart r)
    (hcalls : OnLine (run masterLoopStep (masterStart tick) inputs).app
      (records (lineStep cfg) l lineInputs))
    (hverifying : (run masterLoopStep (masterStart tick) inputs).app.Verifying) :
    ∃ first second q rest b, ∃ made : BuiltCall, lineInputs = first ++ second ∧
      (run masterLoopStep (masterStart tick) inputs).app.cycle.requestCall = some made.call ∧
        WriteExecuted cfg l first made.adu q rest b :=
  ((masterLoop_wellTested tick inputs).acknowledged hverifying).executed
    (masterLoop_transaction tick inputs).2 hinit hquiet hcalls

theorem harness_write_executed_write :
    (run masterLoopStep (masterStart 0) writePasses).app.cycle.lastResult = .pass ∧
    ∃ first second q rest b, ∃ made : BuiltCall, writeOnLine = first ++ second ∧
      (run masterLoopStep (masterStart 0) writePasses).app.cycle.requestCall = some made.call ∧
        WriteExecuted .standard harnessLine first made.adu q rest b := by
  have hpass : (run masterLoopStep (masterStart 0) writePasses).app.cycle.lastResult = .pass := by
    decide +kernel
  have hwrite : modbusMasterTestIsWrite
      (run masterLoopStep (masterStart 0) writePasses).app.cycle.currentTest = true := by
    decide +kernel
  have hstep : (run masterLoopStep (masterStart 0) writePasses).app.cycle.testStep = .idle := by
    decide +kernel
  have hcalls : (run masterLoopStep (masterStart 0) writePasses).app.calls.map
      TransactionCall.content = (lineCalls (records (lineStep .standard) harnessLine
        writeOnLine)).map TransactionCall.content := by
    decide +kernel
  exact ⟨hpass,harness_write_executed .standard 0 writePasses harnessLine harnessLine_initial
    writeOnLine (by decide +kernel) hcalls (.inr ⟨hstep,hwrite,.inl hpass⟩)⟩

end ModbusStack
