import ModbusStack.MasterTransactions
import ModbusStack.RequestChecks

/-! What the harness knows of itself between the statements of its main loop. -/
set_option autoImplicit false

namespace ModbusStack
open ByteMemory Machine

/-! What the harness knows of itself. -/

structure Transaction.Carries (t : Transaction) (b : BuiltCall) : Prop where
  request : t.request = b.request
  length : t.requestAduLength = b.adu.length
  adu : slice t.requestAdu 0 b.adu.length = b.adu

namespace TestCycle
variable (c : TestCycle)

def sentCall : Option BuildCall :=
  if c.testStep = .verifyReadback then some c.readbackCall else c.requestCall

def finalCall : Option BuildCall :=
  if modbusMasterTestIsWrite c.currentTest then some c.readbackCall else c.requestCall

def comparison (r : MasterReadings) : List (Word × Word) :=
  if c.currentTest = .fc05 then [((c.expectedCoils 0).setWidth 16,(r.coils 0).setWidth 16)]
  else if c.currentTest = .fc0F then
    (List.range modbusMasterTestQuantity).map fun i =>
      ((c.expectedCoils i).setWidth 16,(r.coils i).setWidth 16)
  else if c.currentTest = .fc06 then [(c.expectedRegisters 0,r.holdingRegisters 0)]
  else
    (List.range modbusMasterTestQuantity).map fun i =>
      (c.expectedRegisters i,r.holdingRegisters i)

def Mismatch (r : MasterReadings) : Prop :=
  ∃ before expected actual after, c.comparison r = before ++ (expected,actual) :: after ∧
    (∀ p ∈ before, p.1 = p.2) ∧ expected ≠ actual ∧
    c.mismatchIndex = BitVec.ofNat 16 before.length ∧ c.mismatchExpected = expected ∧
    c.mismatchActual = actual

end TestCycle

namespace MasterEvent

def isCall : MasterEvent → Bool
  | .called _ => true
  | _ => false

def isStarted : MasterEvent → Bool
  | .cycleStarted .. => true
  | _ => false

def isFinished : MasterEvent → Bool
  | .cycleFinished _ => true
  | _ => false

def isPassed : MasterEvent → Bool
  | .cycleFinished result => result = .pass
  | _ => false

def isFailed (e : MasterEvent) : Bool := e.isFinished && !e.isPassed

/-- An invalid test was selected between the two readings of a valid selection. -/
def isSpoilt : MasterEvent → Bool
  | .cycleStarted checked test => modbusMasterTestIsValid checked && !modbusMasterTestIsValid test
  | _ => false

def selection? : MasterEvent → Option (MasterTest × MasterTest)
  | .cycleStarted checked test => some (checked,test)
  | _ => none

end MasterEvent

def MasterApp.cycles (a : MasterApp) : List MasterEvent := a.log.filter fun e => !e.isCall

/-- The two readings of the selection with which each cycle began. -/
def MasterApp.selections (a : MasterApp) : List (MasterTest × MasterTest) :=
  a.cycles.filterMap MasterEvent.selection?

def Transaction.Decoded (t : Transaction) (r : MasterReadings) : Prop :=
  ∀ i, i < modbusMasterTestQuantity →
    match t.request.function.toNat with
    | 0x01 => mbrtumGetBit t.request t.response t.responseAdu (BitVec.ofNat 16 i) = .ok (r.coils i)
    | 0x02 =>
      mbrtumGetBit t.request t.response t.responseAdu (BitVec.ofNat 16 i) = .ok (r.discreteInputs i)
    | 0x03 => mbrtumGetRegister t.request t.response t.responseAdu (BitVec.ofNat 16 i) =
        .ok (r.holdingRegisters i)
    | 0x04 => mbrtumGetRegister t.request t.response t.responseAdu (BitVec.ofNat 16 i) =
        .ok (r.inputRegisters i)
    | _ => False

namespace MasterApp

structure Completed (a : MasterApp) : Prop where
  result : a.transaction.result = .success
  carries : ∃ b : BuiltCall, a.cycle.finalCall = some b.call ∧ a.transaction.Carries b
  decoded : a.transaction.Decoded a.readings

/-- What each result of a cycle says; those without a clause are never reported. -/
def Reports (a : MasterApp) : TestResult → Prop
  | .none => a.transaction.state = .idle
  | .pass => a.Completed ∧ (modbusMasterTestIsWrite a.cycle.currentTest = true →
      ∀ p ∈ a.cycle.comparison a.readings, p.1 = p.2)
  | .verifyError => a.Completed ∧ modbusMasterTestIsWrite a.cycle.currentTest = true ∧
      a.cycle.Mismatch a.readings
  | .exception => a.transaction.result = .modbusException
  | .timeout => a.transaction.result = .timeout
  | .transportError => a.transaction.result = .transportError
  | .responseError => a.transaction.result = .responseError
  | .invalidTest => ∃ checked, a.selections.getLast? = some (checked,a.cycle.currentTest) ∧
      modbusMasterTestIsValid checked = false
  | .buildError => ∃ checked, a.selections.getLast? = some (checked,a.cycle.currentTest) ∧
      modbusMasterTestIsValid checked = true ∧ modbusMasterTestIsValid a.cycle.currentTest = false
  | _ => False

structure Running (a : MasterApp) : Prop where
  valid : modbusMasterTestIsValid a.cycle.currentTest = true
  step : a.cycle.testStep = .request ∨
    a.cycle.testStep = .verifyReadback ∧ modbusMasterTestIsWrite a.cycle.currentTest = true
  unreported : a.cycle.lastResult = .none
  begun : a.transaction.state ≠ .idle
  carries : ∃ b : BuiltCall, a.cycle.sentCall = some b.call ∧ a.transaction.Carries b

structure Resting (a : MasterApp) : Prop where
  step : a.cycle.testStep = .idle
  inactive : stateIsActive a.transaction.state = false
  reports : a.Reports a.cycle.lastResult

end MasterApp

/-- The counters count the cycles of the history, in which every cycle is over before the next one
begins. -/
structure MasterApp.Counted (a : MasterApp) : Prop where
  started : a.cycle.started = BitVec.ofNat 32 (a.cycles.countP MasterEvent.isStarted)
  completed : a.cycle.completed = BitVec.ofNat 32 (a.cycles.countP MasterEvent.isFinished)
  passed : a.cycle.passed = BitVec.ofNat 32 (a.cycles.countP MasterEvent.isPassed)
  failed : a.cycle.failed = BitVec.ofNat 32 (a.cycles.countP MasterEvent.isFailed)
  buildErrors : a.cycle.buildErrors = BitVec.ofNat 32 (a.cycles.countP MasterEvent.isSpoilt)
  decodeErrors : a.cycle.decodeErrors = 0#32
  paired : ∃ n, a.cycles.map MasterEvent.isStarted =
    (List.replicate n [true,false]).flatten ++ if a.cycle.active = 0#8 then [] else [true]

structure MasterApp.Sound (a : MasterApp) : Prop where
  transaction : a.transaction.Driven
  transmitting : a.transaction.state = .transmitting ↔ a.uart.txCompletePending ≠ 0#8
  counted : a.Counted
  running : a.cycle.active ≠ 0#8 → a.Running
  resting : a.cycle.active = 0#8 → a.Resting

/-! Statements that leave the cycle alone. -/

structure MasterApp.SameCycle (a a' : MasterApp) : Prop where
  cycle : a'.cycle = a.cycle
  readings : a'.readings = a.readings
  cycles : a'.cycles = a.cycles

section Statements
variable {a a' : MasterApp} {t t' : Transaction} {c : TransactionCall}

theorem Transaction.Carries.same {b : BuiltCall} (h : t.Carries b) (hs : t.SameRequest t') :
    t'.Carries b :=
  ⟨hs.request.trans h.request,hs.requestAduLength.trans h.length,by rw [hs.requestAdu]; exact h.adu⟩

theorem MasterApp.Counted.same (h : a.Counted) (hs : a.SameCycle a') : a'.Counted where
  started := by rw [hs.cycle,hs.cycles]; exact h.started
  completed := by rw [hs.cycle,hs.cycles]; exact h.completed
  passed := by rw [hs.cycle,hs.cycles]; exact h.passed
  failed := by rw [hs.cycle,hs.cycles]; exact h.failed
  buildErrors := by rw [hs.cycle,hs.cycles]; exact h.buildErrors
  decodeErrors := by rw [hs.cycle]; exact h.decodeErrors
  paired := by rw [hs.cycle,hs.cycles]; exact h.paired

theorem MasterApp.Counted.test (h : a.Counted) (hcycles : a'.cycles = a.cycles)
    (hc : a'.cycle.started = a.cycle.started ∧ a'.cycle.completed = a.cycle.completed ∧
      a'.cycle.passed = a.cycle.passed ∧ a'.cycle.failed = a.cycle.failed ∧
      a'.cycle.buildErrors = a.cycle.buildErrors ∧ a'.cycle.decodeErrors = a.cycle.decodeErrors ∧
      a'.cycle.active = a.cycle.active) : a'.Counted := by
  obtain ⟨hstarted,hcompleted,hpassed,hfailed,hbuild,hdecode,hactive⟩ := hc
  constructor
  · rw [hstarted,hcycles]; exact h.started
  · rw [hcompleted,hcycles]; exact h.completed
  · rw [hpassed,hcycles]; exact h.passed
  · rw [hfailed,hcycles]; exact h.failed
  · rw [hbuild,hcycles]; exact h.buildErrors
  · rw [hdecode]; exact h.decodeErrors
  · rw [hactive,hcycles]; exact h.paired

theorem MasterApp.Reports.same {result : TestResult} (h : a.Reports result)
    (hs : a.SameCycle a') (ht : a'.transaction = a.transaction) : a'.Reports result := by
  have hcompleted : a.Completed → a'.Completed := fun hc =>
    ⟨by rw [ht]; exact hc.result,by rw [hs.cycle,ht]; exact hc.carries,
      by rw [ht,hs.readings]; exact hc.decoded⟩
  cases result with
  | none | exception | timeout | transportError | responseError => simpa [Reports,ht] using h
  | pass =>
    refine ⟨hcompleted h.1,?_⟩
    rw [hs.cycle,hs.readings]
    exact h.2
  | verifyError =>
    refine ⟨hcompleted h.1,?_⟩
    rw [hs.cycle,hs.readings]
    exact h.2
  | invalidTest | buildError =>
    simpa [Reports,MasterApp.selections,hs.cycle,hs.cycles] using h
  | startError | decodeError | cancelled | uartError => exact h

theorem MasterApp.Sound.called (h : a.Sound) (hs : a.SameCycle a')
    (hcancel : c ≠ .cancel) (hstart : ∀ request adu length now answer,
      c ≠ .start request adu length now answer)
    (ht : a'.transaction = (transactionStep a.transaction c).2)
    (hpending : a'.transaction.state = .transmitting ↔ a'.uart.txCompletePending ≠ 0#8) :
    a'.Sound := by
  have hm := transactionStep_moves h.transaction.initialized c
  have hcontinues := hm.continues h.transaction.running fun _ _ _ _ _ hc => absurd hc (hstart _ _ _ _ _)
  rw [← ht] at hcontinues
  refine ⟨?_,hpending,h.counted.same hs,fun hactive => ?_,fun hrest => ?_⟩
  · rw [ht]
    exact h.transaction.step hcancel fun _ _ _ _ _ hc => absurd hc (hstart _ _ _ _ _)
  · rw [hs.cycle] at hactive
    obtain ⟨hvalid,hstep,hnone,hbegun,b,hcall,hcarries⟩ := h.running hactive
    refine ⟨?_,?_,?_,?_,b,?_,hcarries.same hcontinues.same⟩
    · rw [hs.cycle]; exact hvalid
    · rw [hs.cycle]; exact hstep
    · rw [hs.cycle]; exact hnone
    · exact fun hidle => hbegun (hcontinues.idle.mp hidle)
    · rw [hs.cycle]; exact hcall
  · rw [hs.cycle] at hrest
    obtain ⟨hstep,hinactive,hreports⟩ := h.resting hrest
    have hsame : a'.transaction = a.transaction := by
      rw [ht]
      exact hm.resting hinactive fun _ _ _ _ _ hc => absurd hc (hstart _ _ _ _ _)
    refine ⟨by rw [hs.cycle]; exact hstep,by rw [hsame]; exact hinactive,?_⟩
    rw [hs.cycle]
    exact hreports.same hs hsame

theorem MasterApp.Sound.still (h : a.Sound) (hs : a.SameCycle a')
    (ht : a'.transaction = a.transaction)
    (hpending : a'.uart.txCompletePending = a.uart.txCompletePending) : a'.Sound := by
  refine ⟨by rw [ht]; exact h.transaction,by rw [ht,hpending]; exact h.transmitting,
    h.counted.same hs,fun hactive => ?_,fun hrest => ?_⟩
  · rw [hs.cycle] at hactive
    obtain ⟨hvalid,hstep,hnone,hbegun,hcarries⟩ := h.running hactive
    constructor
    · rw [hs.cycle]; exact hvalid
    · rw [hs.cycle]; exact hstep
    · rw [hs.cycle]; exact hnone
    · rw [ht]; exact hbegun
    · rw [hs.cycle,ht]; exact hcarries
  · rw [hs.cycle] at hrest
    obtain ⟨hstep,hinactive,hreports⟩ := h.resting hrest
    refine ⟨by rw [hs.cycle]; exact hstep,by rw [ht]; exact hinactive,?_⟩
    rw [hs.cycle]
    exact hreports.same hs ht

theorem MasterApp.SameCycle.trans {a'' : MasterApp} (h : a.SameCycle a')
    (h' : a'.SameCycle a'') : a.SameCycle a'' :=
  ⟨h'.cycle.trans h.cycle,h'.readings.trans h.readings,h'.cycles.trans h.cycles⟩

theorem emit_sameCycle (a : MasterApp) (c : TransactionCall) : a.SameCycle (a.emit (.called c)) := by
  refine ⟨rfl,rfl,?_⟩
  simp [MasterApp.cycles,MasterApp.emit,MasterEvent.isCall]

theorem report_sameCycle (a : MasterApp) (c : TransactionCall) : a.SameCycle (a.report c).2 := by
  have h := emit_sameCycle a c
  exact ⟨rfl,rfl,h.cycles⟩

theorem sync_sameCycle (a : MasterApp) : a.SameCycle (modbusMasterSyncWatchState a) ∧
    (modbusMasterSyncWatchState a).transaction = a.transaction ∧
    (modbusMasterSyncWatchState a).uart.txCompletePending = a.uart.txCompletePending := by
  unfold modbusMasterSyncWatchState
  dsimp only
  split <;> split <;> exact ⟨⟨rfl,rfl,rfl⟩,rfl,rfl⟩

theorem sync_log (a : MasterApp) : (modbusMasterSyncWatchState a).log = a.log := by
  unfold modbusMasterSyncWatchState
  dsimp only
  split <;> split <;> rfl

theorem MasterApp.Sound.sync (h : a.Sound) : (modbusMasterSyncWatchState a).Sound :=
  h.still (sync_sameCycle a).1 (sync_sameCycle a).2.1 (sync_sameCycle a).2.2

theorem interrupted_sameCycle (a : MasterApp) (is : List MasterInterrupt) :
    a.SameCycle (a.interrupted is) := ⟨rfl,rfl,rfl⟩

theorem MasterApp.Sound.interrupted (h : a.Sound) (is : List MasterInterrupt) :
    (a.interrupted is).Sound :=
  h.still ⟨rfl,rfl,rfl⟩ rfl (interrupts_flags a.uart is).pending

/-- The end of a transmission is reported while the object waits for it. -/
theorem onTxComplete_transmitting (hi : t.isInitialized = true) (hstate : t.state = .transmitting)
    (now : Word32) : (transactionStep t (.onTxComplete now)).1.1 = .ok ∧
      (transactionStep t (.onTxComplete now)).2.state ≠ .transmitting := by
  by_cases hexpects : t.request.expectsResponse = 0#8 <;>
    simp [transactionStep,Transaction.onTxComplete,hi,hstate,hexpects,Transaction.finish,
      Transaction.count]

theorem handleTxComplete_sameCycle (a : MasterApp) :
    a.SameCycle (modbusMasterHandleTxComplete a) := by
  unfold modbusMasterHandleTxComplete
  dsimp only
  split
  · exact ⟨rfl,rfl,rfl⟩
  · have h := report_sameCycle { a with uart := { a.uart with txCompletePending := 0 } }
      (.onTxComplete a.uart.txCompleteTick)
    split <;> exact ⟨rfl,rfl,h.cycles⟩

theorem MasterApp.Sound.handleTxComplete (h : a.Sound) :
    (modbusMasterHandleTxComplete a).Sound ∧
      (modbusMasterHandleTxComplete a).transaction.state ≠ .transmitting := by
  have hs := handleTxComplete_sameCycle a
  by_cases hpending : a.uart.txCompletePending = 0#8
  · have he : modbusMasterHandleTxComplete a =
        { a with uart := { a.uart with txCompletePending := 0 } } := if_pos hpending
    have hno : a.transaction.state ≠ .transmitting := fun ht => h.transmitting.mp ht hpending
    rw [he] at hs ⊢
    exact ⟨h.still hs rfl hpending.symm,hno⟩
  · obtain ⟨hok,hno⟩ := onTxComplete_transmitting h.transaction.initialized
      (h.transmitting.mpr hpending) a.uart.txCompleteTick
    have he : modbusMasterHandleTxComplete a =
        (MasterApp.report { a with uart := { a.uart with txCompletePending := 0 } }
          (.onTxComplete a.uart.txCompleteTick)).2 := by
      unfold modbusMasterHandleTxComplete
      dsimp only
      rw [if_neg hpending]
      exact if_neg (not_not.mpr hok)
    rw [he] at hs ⊢
    refine ⟨h.called hs (c := .onTxComplete a.uart.txCompleteTick) (by simp) (by simp) rfl ?_,hno⟩
    exact ⟨fun ht => absurd ht hno,fun hp => absurd rfl hp⟩

theorem Transaction.GivenUp.state_ne {now : Word32} {r : TransactionResult}
    (hg : t.GivenUp now r t') : t'.state ≠ .transmitting := by
  cases hg with
  | retry _ state _ _ _ => simp [state]
  | fail state _ _ => simp [state]

theorem onResponse_state_ne (hi : t.isInitialized = true) (hstate : t.state ≠ .transmitting)
    (adu : Option (Mem Byte)) (length : Nat) (now : Word32) :
    (transactionStep t (.onResponse adu length now)).2.state ≠ .transmitting := by
  have hm := transactionStep_moves hi (.onResponse adu length now)
  generalize (transactionStep t (.onResponse adu length now)).2 = t',
    (transactionStep t (.onResponse adu length now)).1 = out at hm
  cases hm with
  | refused => exact hstate
  | timedOut _ _ _ _ _ _ _ hgiven => exact hgiven.state_ne
  | wrongLength _ _ _ hwaiting _ _ =>
    show t.state ≠ .transmitting
    exact hstate
  | judged adu length now hwaiting _ _ =>
    rcases (judge_spec t adu length (t.validate adu length).1).2.1 with h | h
    · rw [h]
      exact hstate
    · simp [h]

theorem beginTransmit_state (t : Transaction) (answer : Int) (now : Word32) :
    (t.beginTransmit answer now).2.state = .transmitting ↔ answer = 0 := by
  by_cases hz : answer = 0
  · rw [show (t.beginTransmit answer now).2 = t.sending from if_pos hz]
    exact ⟨fun _ => hz,fun _ => rfl⟩
  · rw [show (t.beginTransmit answer now).2 = t.sending.transportFailed now from if_neg hz]
    exact ⟨fun h => absurd h (t.sending.transportFailed_spec now).2.1.state_ne,
      fun h => absurd h hz⟩

/-- A poll transmits out of the retry delay only, and is then in transmission if the transport
has accepted. -/
theorem poll_state (hi : t.isInitialized = true) (now : Word32) (answer : Int) :
    ((transactionStep t (.poll now answer)).1.2 = [] →
      ((transactionStep t (.poll now answer)).2.state = .transmitting ↔ t.state = .transmitting)) ∧
    ((transactionStep t (.poll now answer)).1.2 ≠ [] → t.state = .retryDelay ∧
      ((transactionStep t (.poll now answer)).2.state = .transmitting ↔ answer = 0)) := by
  have hm := transactionStep_moves hi (.poll now answer)
  generalize (transactionStep t (.poll now answer)).2 = t',
    (transactionStep t (.poll now answer)).1 = out at hm
  cases hm with
  | refused | rested => exact ⟨fun _ => Iff.rfl,fun h => absurd rfl h⟩
  | retried now answer hstate _ =>
    exact ⟨fun h => by simp [Transaction.beginTransmit] at h,
      fun _ => ⟨hstate,beginTransmit_state t answer now⟩⟩
  | timedOut _ _ _ _ hstate _ _ hgiven =>
    refine ⟨fun _ => ?_,fun h => absurd rfl h⟩
    exact ⟨fun h => absurd h hgiven.state_ne,fun h => by simp [hstate] at h⟩

/-- The answer of the transport does not change what a poll hands to it. -/
theorem poll_sent (t : Transaction) (now : Word32) (answer : Int) :
    (transactionStep t (.poll now answer)).1 = (transactionStep t (.poll now 0)).1 := by
  simp only [transactionStep,Transaction.poll]
  split_ifs <;> rfl

theorem call_sameCycle (a : MasterApp) (x : UartTransmission) (c : Int → TransactionCall) :
    a.SameCycle (a.call x c).2 := by
  have h := emit_sameCycle a (callTransaction a.transaction a.uart x c).1
  exact ⟨rfl,rfl,h.cycles⟩

theorem MasterApp.Sound.idle_pending (h : a.Sound) (hstate : a.transaction.state ≠ .transmitting) :
    a.uart.txCompletePending = 0#8 := by
  by_contra hno
  exact hstate (h.transmitting.mpr hno)

theorem MasterApp.Sound.poll (h : a.Sound) (x : UartTransmission) (now : Word32) :
    (a.call x (.poll now)).2.Sound := by
  have hs := call_sameCycle a x (.poll now)
  have hspec := callTransaction_spec a.uart a.transaction x (.poll now)
  have hi := h.transaction.initialized
  simp only [MasterApp.call] at hs ⊢
  generalize callTransaction a.transaction a.uart x (.poll now) = out at hs hspec
  cases hspec with
  | silent hsent =>
    refine h.called hs (c := .poll now 0) (by simp) (by simp) rfl ?_
    exact ((poll_state hi now 0).1 hsent).trans h.transmitting
  | transmitted answer u' hsent htransport =>
    obtain ⟨hdelay,hstate⟩ := (poll_state hi now answer).2 (by rw [poll_sent]; exact hsent)
    have hpending := h.idle_pending (by simp [hdelay])
    exact h.called hs (c := .poll now answer) (by simp) (by simp) rfl
      (hstate.trans (htransport.pending hpending))

theorem MasterApp.Sound.respond (h : a.Sound) (hstate : a.transaction.state ≠ .transmitting)
    (adu : Mem Byte) (length : Nat) (now : Word32) :
    (a.report (.onResponse (some adu) length now)).2.Sound := by
  refine h.called (report_sameCycle a _) (c := .onResponse (some adu) length now) (by simp)
    (by simp) rfl ?_
  have hno := onResponse_state_ne h.transaction.initialized hstate (some adu) length now
  exact ⟨fun h => absurd h hno,fun hp => absurd (h.idle_pending hstate) hp⟩

theorem handFrame_sameCycle (a : MasterApp) (f : TakenFrame) (now : Word32) :
    a.SameCycle (handResponseFrame a f now) := by
  have hcall (c : TransactionCall) := report_sameCycle
    { a with watch := { a.watch with lastResponseLength := f.length } } c
  unfold handResponseFrame
  dsimp only
  split
  · exact ⟨rfl,rfl,rfl⟩
  · split
    · exact ⟨rfl,rfl,(hcall _).cycles⟩
    · exact ⟨rfl,rfl,(hcall _).cycles⟩

theorem MasterApp.Sound.handFrame (h : a.Sound) (f : TakenFrame) (now : Word32) :
    (handResponseFrame a f now).Sound := by
  have hnoted : MasterApp.Sound { a with watch := { a.watch with lastResponseLength := f.length } } :=
    h.still ⟨rfl,rfl,rfl⟩ rfl rfl
  unfold handResponseFrame
  dsimp only
  split
  · exact h.still ⟨rfl,rfl,rfl⟩ rfl rfl
  · rename_i hstate
    have hstate : a.transaction.state ≠ .transmitting := by simp [not_not.mp hstate]
    split <;> exact hnoted.respond hstate _ _ _

theorem takeUartError_sameCycle (a : MasterApp) : a.SameCycle (takeUartError a).2 := by
  unfold takeUartError
  split <;> exact ⟨rfl,rfl,rfl⟩

theorem reportUartError_sameCycle (a : MasterApp) (now : Word32) :
    a.SameCycle (reportUartError a now) := by
  unfold reportUartError
  dsimp only
  split
  · refine .trans ?_ (report_sameCycle _ _)
    exact ⟨rfl,rfl,rfl⟩
  · exact ⟨rfl,rfl,rfl⟩

theorem MasterApp.Sound.takeUartError (h : a.Sound) : (takeUartError a).2.Sound := by
  unfold ModbusStack.takeUartError
  split
  · exact h
  · exact h.still ⟨rfl,rfl,rfl⟩ rfl rfl

theorem MasterApp.Sound.resetReceiver (h : a.Sound) : (resetReceiver a).Sound :=
  h.still ⟨rfl,rfl,rfl⟩ rfl rfl

theorem MasterApp.Sound.reportUartError (h : a.Sound) (now : Word32) :
    (reportUartError a now).Sound := by
  unfold ModbusStack.reportUartError
  dsimp only
  split
  · rename_i hstate
    refine MasterApp.Sound.respond ?_ (by simp [hstate]) _ _ _
    exact h.still ⟨rfl,rfl,rfl⟩ rfl rfl
  · exact h.still ⟨rfl,rfl,rfl⟩ rfl rfl

theorem takeFrame_sameCycle (a : MasterApp) : a.SameCycle (takePendingFrame a).2 := by
  unfold takePendingFrame
  dsimp only
  split <;> exact ⟨rfl,rfl,rfl⟩

theorem MasterApp.Sound.takeFrame (h : a.Sound) : (takePendingFrame a).2.Sound := by
  unfold takePendingFrame
  dsimp only
  split
  · exact h
  · exact h.still ⟨rfl,rfl,rfl⟩ rfl rfl

theorem MasterApp.Sound.armed (h : a.Sound) (uartReady armed : Bool) :
    MasterApp.Sound { a with uart := modbusMasterEnsureReceiveArmed a.uart uartReady armed } := by
  refine h.still ⟨rfl,rfl,rfl⟩ rfl ?_
  unfold modbusMasterEnsureReceiveArmed
  split
  · split <;> rfl
  · rfl

end Statements

/-! The end of a cycle. -/

section Finishing
variable {a : MasterApp} {result : TestResult} {now : Word32}

theorem finishCycle_cycles (a : MasterApp) (result : TestResult) (now : Word32) :
    (modbusMasterFinishCycle a result now).cycles = a.cycles ++ [.cycleFinished result] := by
  show List.filter _ (a.log ++ [_]) = _
  simp [MasterApp.cycles,MasterEvent.isCall]

theorem finishCycle_selections (a : MasterApp) (result : TestResult) (now : Word32) :
    (modbusMasterFinishCycle a result now).selections = a.selections := by
  unfold MasterApp.selections
  rw [finishCycle_cycles]
  simp [MasterEvent.selection?]

theorem MasterApp.Reports.finished (h : a.Reports result) :
    (modbusMasterFinishCycle a result now).Reports result := by
  have htest : (modbusMasterFinishCycle a result now).cycle.currentTest = a.cycle.currentTest := by
    unfold modbusMasterFinishCycle
    dsimp only [MasterApp.emit]
    split <;> rfl
  cases result with
  | pass => exact ⟨⟨h.1.result,h.1.carries,h.1.decoded⟩,h.2⟩
  | verifyError => exact ⟨⟨h.1.result,h.1.carries,h.1.decoded⟩,h.2⟩
  | invalidTest | buildError =>
    unfold MasterApp.Reports
    rw [finishCycle_selections,htest]
    exact h
  | _ => exact h

theorem pairs_snoc (n : Nat) : (List.replicate n [true,false]).flatten ++ [true] ++ [false] =
    (List.replicate (n+1) [true,false]).flatten := by
  rw [List.replicate_succ',List.flatten_append,List.append_assoc]
  rfl

theorem MasterApp.Counted.finished (h : a.Counted) (hactive : a.cycle.active ≠ 0#8) :
    (modbusMasterFinishCycle a result now).Counted := by
  have hcycles := finishCycle_cycles a result now
  obtain ⟨hstarted,hcompleted,hpassed,hfailed,hbuild,hdecode,n,hpaired⟩ := h
  rw [if_neg hactive] at hpaired
  have hrest : (modbusMasterFinishCycle a result now).cycle.active = 0#8 ∧
      (modbusMasterFinishCycle a result now).cycle.decodeErrors = a.cycle.decodeErrors := by
    unfold modbusMasterFinishCycle
    dsimp only [MasterApp.emit]
    split <;> exact ⟨rfl,rfl⟩
  refine ⟨?_,?_,?_,?_,?_,hrest.2.trans hdecode,n+1,?_⟩
  case refine_6 =>
    rw [hcycles,if_pos hrest.1,List.map_append,hpaired,List.append_nil,← pairs_snoc]
    rfl
  all_goals
    rw [hcycles]
    by_cases hr : result = .pass
    · subst hr
      simp [modbusMasterFinishCycle,MasterApp.emit,List.countP_append,MasterEvent.isStarted,
        MasterEvent.isFinished,MasterEvent.isPassed,MasterEvent.isFailed,MasterEvent.isSpoilt,
        hstarted,hcompleted,hpassed,hfailed,hbuild,BitVec.ofNat_add]
    · simp [modbusMasterFinishCycle,MasterApp.emit,List.countP_append,MasterEvent.isStarted,
        MasterEvent.isFinished,MasterEvent.isPassed,MasterEvent.isFailed,MasterEvent.isSpoilt,
        hstarted,hcompleted,hpassed,hfailed,hbuild,hr,BitVec.ofNat_add]

theorem MasterApp.Sound.finish (hdriven : a.transaction.Driven) (hcounted : a.Counted)
    (hactive : a.cycle.active ≠ 0#8) (hpending : a.uart.txCompletePending = 0#8)
    (hinactive : stateIsActive a.transaction.state = false) (hreports : a.Reports result) :
    (modbusMasterFinishCycle a result now).Sound := by
  have hno : a.transaction.state ≠ .transmitting := by
    intro h
    simp [h,stateIsActive] at hinactive
  have hstate : (modbusMasterFinishCycle a result now).cycle.active = 0#8 ∧
      (modbusMasterFinishCycle a result now).cycle.testStep = .idle ∧
      (modbusMasterFinishCycle a result now).cycle.lastResult = result := by
    unfold modbusMasterFinishCycle
    dsimp only [MasterApp.emit]
    split <;> exact ⟨rfl,rfl,rfl⟩
  refine ⟨hdriven,⟨fun h => absurd h hno,fun h => absurd hpending h⟩,hcounted.finished hactive,
    fun h => absurd hstate.1 h,fun _ => ⟨hstate.2.1,hinactive,?_⟩⟩
  rw [hstate.2.2]
  exact hreports.finished

end Finishing

/-! The start of a step. -/

section Starting
variable {a : MasterApp}

theorem expect_currentTest (c : TestCycle) (s : MasterSettings) :
    (c.expect s).currentTest = c.currentTest := by
  unfold TestCycle.expect
  split_ifs <;> rfl

structure TestCycle.SameProgress (c c' : TestCycle) : Prop where
  currentTest : c'.currentTest = c.currentTest
  testStep : c'.testStep = c.testStep
  lastResult : c'.lastResult = c.lastResult
  active : c'.active = c.active
  started : c'.started = c.started
  completed : c'.completed = c.completed
  passed : c'.passed = c.passed
  failed : c'.failed = c.failed
  buildErrors : c'.buildErrors = c.buildErrors
  decodeErrors : c'.decodeErrors = c.decodeErrors

theorem expect_sameProgress (c : TestCycle) (s : MasterSettings) : c.SameProgress (c.expect s) := by
  unfold TestCycle.expect
  split_ifs <;> exact ⟨rfl,rfl,rfl,rfl,rfl,rfl,rfl,rfl,rfl,rfl⟩

theorem MasterTest.valid_cases {test : MasterTest} (h : modbusMasterTestIsValid test = true) :
    test = .fc01 ∨ test = .fc02 ∨ test = .fc03 ∨ test = .fc04 ∨ test = .fc05 ∨ test = .fc06 ∨
      test = .fc0F ∨ test = .fc10 := of_decide_eq_true h

/-- Every valid test has a first request, and its builder accepts it. -/
theorem requestCall_builds (c : TestCycle) (s : MasterSettings)
    (h : modbusMasterTestIsValid c.currentTest = true) :
    ∃ call, (c.expect s).requestCall = some call ∧
      (call.build modbusMasterRequestBuffer).result = .ok := by
  have htest := expect_currentTest c s
  rcases MasterTest.valid_cases h with h | h | h | h | h | h | h | h
  all_goals
    rw [h] at htest
    simp only [TestCycle.requestCall,htest,MasterTest.fc01,MasterTest.fc02,MasterTest.fc03,
      MasterTest.fc04,MasterTest.fc05,MasterTest.fc06,MasterTest.fc0F,MasterTest.fc10]
  case inr.inr.inr.inr.inl =>
    have hvalue : (c.expect s).expectedCoils 0 = coilValue s.singleCoilWriteValue := by
      simp [TestCycle.expect,h,put]
    refine ⟨_,rfl,?_⟩
    rw [hvalue]
    unfold coilValue
    split <;> rfl
  all_goals exact ⟨_,rfl,rfl⟩

theorem readbackCall_builds (c : TestCycle) :
    (c.readbackCall.build modbusMasterRequestBuffer).result = .ok := by
  unfold TestCycle.readbackCall
  split <;> rfl

theorem modbusMasterBuildRequest_spec (c : TestCycle) (s : MasterSettings)
    (hvalid : modbusMasterTestIsValid c.currentTest = true) :
    ∃ b : BuiltCall, (modbusMasterBuildRequest c s).1 = .ok ∧
      (modbusMasterBuildRequest c s).2.sentCall = some b.call ∧
      (modbusMasterBuildRequest c s).2.request = b.request ∧
      (modbusMasterBuildRequest c s).2.requestAdu = ofList b.adu ∧
      (modbusMasterBuildRequest c s).2.requestAduLength = b.adu.length ∧
      c.SameProgress (modbusMasterBuildRequest c s).2 := by
  by_cases hstep : c.testStep = .verifyReadback
  · rw [show modbusMasterBuildRequest c s =
      c.storeBuilt (c.readbackCall.build modbusMasterRequestBuffer) from if_pos hstep]
    refine ⟨⟨c.readbackCall,modbusMasterRequestBuffer,readbackCall_builds c⟩,readbackCall_builds c,
      ?_,rfl,rfl,rfl,⟨rfl,rfl,rfl,rfl,rfl,rfl,rfl,rfl,rfl,rfl⟩⟩
    exact if_pos hstep
  · obtain ⟨call,hcall,hbuilt⟩ := requestCall_builds c s hvalid
    have hsame := expect_sameProgress c s
    have he : modbusMasterBuildRequest c s =
        (c.expect s).storeBuilt (call.build modbusMasterRequestBuffer) := by
      unfold modbusMasterBuildRequest
      rw [if_neg hstep]
      dsimp only
      rw [hcall]
    rw [he]
    refine ⟨⟨call,modbusMasterRequestBuffer,hbuilt⟩,hbuilt,?_,rfl,rfl,rfl,hsame.1,hsame.2,hsame.3,
      hsame.4,hsame.5,hsame.6,hsame.7,hsame.8,hsame.9,hsame.10⟩
    have hno : (c.expect s).testStep ≠ .verifyReadback := by rw [hsame.testStep]; exact hstep
    exact (if_neg hno).trans hcall

structure MasterApp.Poised (a : MasterApp) : Prop where
  transaction : a.transaction.Driven
  pending : a.uart.txCompletePending = 0#8
  counted : a.Counted
  active : a.cycle.active ≠ 0#8
  inactive : stateIsActive a.transaction.state = false
  valid : modbusMasterTestIsValid a.cycle.currentTest = true
  step : a.cycle.testStep = .request ∨
    a.cycle.testStep = .verifyReadback ∧ modbusMasterTestIsWrite a.cycle.currentTest = true
  unreported : a.cycle.lastResult = .none

/-- The object takes every built request, whatever the transport answers. -/
theorem start_built {t : Transaction} (ht : t.Driven) (hinactive : stateIsActive t.state = false)
    (b : BuiltCall) (now : Word32) (answer : Int) :
    let step := transactionStep t (.start (some b.request) (some (ofList b.adu)) b.adu.length now answer)
    step.1.1 = .ok ∧ step.1.2 = [b.adu] ∧ OpenedWith t step.2 b.request b.adu ∧
      (step.2.state = .transmitting ↔ answer = 0) ∧ step.2.Driven := by
  intro step
  have hstored := stored_ofList b.adu []
  rw [List.append_nil] at hstored
  have haccepted := accepted_of_wellFormed b.wellFormed
  rw [← b.request_eq,← b.adu_eq] at haccepted
  have hstarts := haccepted.starts t (ofList b.adu) now answer ht.initialized hinactive hstored
  have hok : step.1.1 = .ok := hstarts
  have hm : Moves t _ step.1 step.2 := transactionStep_moves ht.initialized _
  obtain ⟨hopened,hsent⟩ := hm.opens hok
  refine ⟨hok,hsent,hopened,?_,ht.step (by simp) ?_⟩
  · generalize step.2 = t',step.1 = out at hm hok
    cases hm with
    | refused _ _ hcode _ => exact absurd hok hcode
    | timedOut _ _ _ hc => rcases hc with ⟨_,hc⟩ | ⟨_,_,hc⟩ <;> cases hc
    | started => exact beginTransmit_state _ _ _
  · rintro _ _ _ _ _ ⟨⟩
    exact ⟨_,_,rfl,rfl,rfl⟩

theorem MasterApp.Poised.call (h : a.Poised) {c : TestCycle} {b : BuiltCall}
    (hsame : a.cycle.SameProgress c) (hcall : c.sentCall = some b.call) (x : UartTransmission)
    (now : Word32) :
    let out := MasterApp.call { a with cycle := c } x
      (.start (some b.request) (some (ofList b.adu)) b.adu.length now)
    out.1 = .ok ∧ out.2.Sound := by
  intro out
  have hs : MasterApp.SameCycle { a with cycle := c } out.2 := call_sameCycle _ x _
  have hspec := callTransaction_spec a.uart a.transaction x
    (.start (some b.request) (some (ofList b.adu)) b.adu.length now)
  have hstart := start_built h.transaction h.inactive b now
  simp only [MasterApp.call,out] at hs ⊢
  generalize callTransaction a.transaction a.uart x
    (.start (some b.request) (some (ofList b.adu)) b.adu.length now) = made at hs hspec ⊢
  cases hspec with
  | silent hsent =>
    rw [(hstart 0).2.1] at hsent
    cases hsent
  | transmitted answer u' hsent htransport =>
    obtain ⟨hok,-,hopened,hstate,hdriven⟩ := hstart answer
    refine ⟨hok,hdriven,hstate.trans ?_,MasterApp.Counted.same ?_ hs,fun _ => ?_,fun hrest => ?_⟩
    · exact htransport.pending h.pending
    · exact h.counted.test rfl ⟨hsame.started,hsame.completed,hsame.passed,hsame.failed,
        hsame.buildErrors,hsame.decodeErrors,hsame.active⟩
    · refine ⟨?_,?_,hsame.lastResult.trans h.unreported,hopened.state,b,hcall,hopened.request,
        hopened.length,hopened.adu⟩
      · show modbusMasterTestIsValid c.currentTest = true
        rw [hsame.currentTest]
        exact h.valid
      · show c.testStep = .request ∨ c.testStep = .verifyReadback ∧
          modbusMasterTestIsWrite c.currentTest = true
        rw [hsame.testStep,hsame.currentTest]
        exact h.step
    · exact absurd (hsame.active.symm.trans hrest) h.active

/-- What the start of a step comes to: its build and its call are not refused. -/
theorem MasterApp.Poised.start_eq (h : a.Poised) (now : Word32) (x : StartHardware) :
    ∃ b : BuiltCall,
      let called := (MasterApp.call { a with cycle := (modbusMasterBuildRequest a.cycle a.settings).2 }
        x.transmission (.start (some b.request) (some (ofList b.adu)) b.adu.length now)).2
      called.Sound ∧ modbusMasterStartCurrentStep a now x = modbusMasterSyncWatchState
        ((modbusMasterHandleTxComplete (called.interrupted x.afterStart)).interrupted
          x.afterTxComplete) := by
  obtain ⟨b,hok,hcall,hrequest,hadu,hlength,hsame⟩ :=
    modbusMasterBuildRequest_spec a.cycle a.settings h.valid
  obtain ⟨hstarted,hsound⟩ := h.call hsame hcall x.transmission now
  refine ⟨b,hsound,?_⟩
  unfold modbusMasterStartCurrentStep
  generalize modbusMasterBuildRequest a.cycle a.settings = built at hok hrequest hadu hlength hstarted ⊢
  obtain ⟨result,c⟩ := built
  dsimp only at hok hrequest hadu hlength hstarted ⊢
  rw [if_neg (not_not.mpr hok),hrequest,hadu,hlength,if_neg (not_not.mpr hstarted)]

theorem MasterApp.Poised.start (h : a.Poised) (now : Word32) (x : StartHardware) :
    (modbusMasterStartCurrentStep a now x).Sound := by
  obtain ⟨b,hsound,he⟩ := h.start_eq now x
  rw [he]
  exact ((hsound.interrupted _).handleTxComplete.1.interrupted _).sync

end Starting

end ModbusStack
