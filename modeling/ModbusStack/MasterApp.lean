import ModbusStack.MasterDecode
import ModbusStack.Transaction

/-! The validation harness of the serial master, `STM32F767_RTU_Master/app/app.c`: the byte
receiver of the board, the transport under the transaction object, and the test cycles that the
main loop runs. -/
set_option autoImplicit false

namespace ModbusStack
open ByteMemory

/-! The receiver. -/

def modbusMasterRxBufferCapacity : Nat := 256

/-- `modbus_master_rx_t`. -/
structure MasterRx where
  buffers : Mem (Mem Byte)
  timing : RtuTiming
  gapTicks : Word32
  activeLength : Nat
  pendingLength : Nat
  activeBufferIndex : Byte
  pendingBufferIndex : Byte
  frameActive : Byte
  activeInvalidGap : Byte
  activeOverflow : Byte
  pendingReady : Byte
  pendingInvalidGap : Byte
  pendingOverflow : Byte

/-- What the interrupt handlers share with the main loop. -/
structure MasterUart where
  rx : MasterRx
  initialized : Byte
  receiveWindowOpen : Byte
  uartErrorPending : Byte
  txCompletePending : Byte
  txCompleteTick : Word32
  currentFunction : Byte
  receivedBytes : Word32
  detectedFrames : Word32
  invalidGapFrames : Word32
  overflowFrames : Word32
  overrunFrames : Word32
  unexpectedBytes : Word32
  uartErrorCount : Word32
  uartRecoveryCount : Word32

def modbusMasterRxResetActiveIsr (rx : MasterRx) : MasterRx :=
  { rx with
    gapTicks := 0
    activeLength := 0
    frameActive := 0
    activeInvalidGap := 0
    activeOverflow := 0 }

def modbusMasterRxResetAll (u : MasterUart) : MasterUart :=
  { u with
    rx := modbusMasterRxResetActiveIsr { u.rx with
      activeBufferIndex := 0
      pendingBufferIndex := 0
      pendingLength := 0
      pendingReady := 0
      pendingInvalidGap := 0
      pendingOverflow := 0 } }

def MasterRx.activeFrame (rx : MasterRx) : CompletedFrame :=
  ⟨slice (rx.buffers rx.activeBufferIndex.toNat) 0 rx.activeLength,rx.activeInvalidGap,
    rx.activeOverflow⟩

/-- The frame completed, if any. -/
def modbusMasterRxCompleteFrameIsr (u : MasterUart) : Option CompletedFrame × MasterUart :=
  if u.rx.frameActive = 0#8 then (none,u)
  else
    let frame := u.rx.activeFrame
    let u := { u with detectedFrames := u.detectedFrames+1 }
    let u :=
      if u.rx.pendingReady = 0#8 then
        { u with
          rx := { u.rx with
            pendingBufferIndex := u.rx.activeBufferIndex
            pendingLength := u.rx.activeLength
            pendingInvalidGap := u.rx.activeInvalidGap
            pendingOverflow := u.rx.activeOverflow
            activeBufferIndex := u.rx.activeBufferIndex ^^^ 1
            pendingReady := 1 } }
      else { u with overrunFrames := u.overrunFrames+1 }
    (some frame,{ u with rx := modbusMasterRxResetActiveIsr u.rx })

/-- The end of the byte handler: the byte is stored unless the frame is spoilt. -/
def MasterUart.storeByte (u : MasterUart) (byte : Byte) : MasterUart :=
  if u.rx.activeInvalidGap ≠ 0#8 ∨ u.rx.activeOverflow ≠ 0#8 then u
  else if modbusMasterRxBufferCapacity ≤ u.rx.activeLength then
    { u with
      rx := { u.rx with activeOverflow := 1 }
      overflowFrames := u.overflowFrames+1 }
  else
    let active := u.rx.buffers u.rx.activeBufferIndex.toNat
    { u with
      rx := { u.rx with
        buffers := put u.rx.buffers u.rx.activeBufferIndex.toNat
          (put active u.rx.activeLength byte)
        activeLength := u.rx.activeLength+1 } }

def modbusMasterOnRxByteIsr (u : MasterUart) (byte : Byte) : Option CompletedFrame × MasterUart :=
  if u.initialized = 0#8 ∨ u.receiveWindowOpen = 0#8 then
    (none,{ u with unexpectedBytes := u.unexpectedBytes+1 })
  else
    let u := { u with receivedBytes := u.receivedBytes+1 }
    let (frame,u) :=
      if u.rx.frameActive ≠ 0#8 then
        if u.rx.timing.byteCompleteT35Ticks.toNat ≤ u.rx.gapTicks.toNat then
          modbusMasterRxCompleteFrameIsr u
        else if u.rx.timing.byteCompleteT15Ticks.toNat < u.rx.gapTicks.toNat ∧
            u.rx.activeInvalidGap = 0#8 then
          (none,{ u with
            rx := { u.rx with activeInvalidGap := 1 }
            invalidGapFrames := u.invalidGapFrames+1 })
        else (none,u)
      else (none,u)
    (frame,MasterUart.storeByte { u with rx := { u.rx with gapTicks := 0, frameActive := 1 } } byte)

/-- Unlike the byte handler, the tick counts up to `t3_5_ticks`. -/
def modbusMasterOn50usTickIsr (u : MasterUart) : Option CompletedFrame × MasterUart :=
  if u.initialized = 0#8 ∨ u.receiveWindowOpen = 0#8 ∨ u.rx.frameActive = 0#8 then (none,u)
  else
    let u := if u.rx.gapTicks.toNat < u.rx.timing.t35Ticks.toNat then
        { u with rx := { u.rx with gapTicks := u.rx.gapTicks+1 } }
      else u
    if u.rx.timing.t35Ticks.toNat ≤ u.rx.gapTicks.toNat then modbusMasterRxCompleteFrameIsr u
    else (none,u)

/-- `HAL_UART_Receive_IT` has failed, or the UART has reported an error. -/
def MasterUart.noteError (u : MasterUart) : MasterUart :=
  { u with
    uartErrorCount := u.uartErrorCount+1
    uartErrorPending := 1 }

/-- `rearmed` is the outcome of `HAL_UART_Receive_IT`. -/
inductive MasterInterrupt where
  | rxComplete (byte : Byte) (rearmed : Bool)
  | uartError
  | tick

def MasterUart.interrupt (u : MasterUart) : MasterInterrupt → Option CompletedFrame × MasterUart
  | .rxComplete byte rearmed =>
    let (frame,u) := modbusMasterOnRxByteIsr u byte
    (frame,if rearmed then u else u.noteError)
  | .uartError => (none,u.noteError)
  | .tick => modbusMasterOn50usTickIsr u

def MasterUart.interrupts (u : MasterUart) (is : List MasterInterrupt) : MasterUart :=
  is.foldl (fun u i => (u.interrupt i).2) u

/-- `armed` is the outcome of `HAL_UART_Receive_IT`. -/
def modbusMasterEnsureReceiveArmed (u : MasterUart) (uartReady armed : Bool) : MasterUart :=
  if uartReady then
    if armed then { u with uartRecoveryCount := u.uartRecoveryCount+1 } else u.noteError
  else u

/-! The transport. -/

/-- A run of `HAL_UART_Transmit`: what interrupts it, whether it returns `HAL_OK`, and the tick
count at its end. -/
structure UartTransmission where
  during : List MasterInterrupt
  accepted : Bool
  tick : Word32

def modbusMasterTransportTransmit (u : MasterUart) (adu : List Byte) (x : UartTransmission) :
    Int × MasterUart :=
  if adu.length = 0 ∨ 65535 < adu.length then (-1,u)
  else
    let u := { modbusMasterRxResetAll u with
      receiveWindowOpen := 0
      txCompletePending := 0
      currentFunction := ofList adu 1 }
    let u := u.interrupts x.during
    if ¬ x.accepted then (-1,u)
    else
      (0,{ u with
        txCompleteTick := x.tick
        txCompletePending := 1
        receiveWindowOpen := 1 })

/-- A call of the transaction interface over this transport. The object decides what it
transmits before it sees the answer. -/
def callTransaction (t : Transaction) (u : MasterUart) (x : UartTransmission)
    (call : Int → TransactionCall) : TransactionCall × TransactionStep × MasterUart :=
  match (transactionStep t (call 0)).1.2 with
  | [] => (call 0,transactionStep t (call 0),u)
  | adu :: _ =>
    let (answer,u) := modbusMasterTransportTransmit u adu x
    (call answer,transactionStep t (call answer),u)

/-! The test cycles. -/

/-- `modbus_master_test_t`, of which only the eight enumerators are valid. -/
abbrev MasterTest := Word32

namespace MasterTest
def fc01 : MasterTest := 0x01#32
def fc02 : MasterTest := 0x02#32
def fc03 : MasterTest := 0x03#32
def fc04 : MasterTest := 0x04#32
def fc05 : MasterTest := 0x05#32
def fc06 : MasterTest := 0x06#32
def fc0F : MasterTest := 0x0F#32
def fc10 : MasterTest := 0x10#32
end MasterTest

def modbusMasterTestIsValid (test : MasterTest) : Bool :=
  test = .fc01 ∨ test = .fc02 ∨ test = .fc03 ∨ test = .fc04 ∨ test = .fc05 ∨ test = .fc06 ∨
    test = .fc0F ∨ test = .fc10

def modbusMasterTestIsWrite (test : MasterTest) : Bool :=
  test = .fc05 ∨ test = .fc06 ∨ test = .fc0F ∨ test = .fc10

inductive MasterTestStep where
  | idle | request | verifyReadback
  deriving DecidableEq, Repr

inductive TestResult where
  | none | pass | buildError | startError | exception | timeout | transportError | responseError
  | decodeError | verifyError | cancelled | uartError | invalidTest
  deriving DecidableEq, Repr

/-- `modbus_master_last_protocol_result` holds results of three interfaces. -/
inductive ProtocolResult where
  | master (result : MasterResult)
  | transaction (code : TransactionCode)
  | timing (error : RtuInitError)
  deriving DecidableEq, Repr

structure MasterSettings where
  selectedTest : MasterTest
  autoPollEnabled : Byte
  singleCoilWriteValue : Byte
  singleRegisterWriteValue : Word
  multipleCoilWriteValues : Mem Byte
  multipleRegisterWriteValues : Mem Word

structure TestCycle where
  currentTest : MasterTest
  testStep : MasterTestStep
  lastResult : TestResult
  active : Byte
  nextCycleMs : Word32
  request : Request
  requestAdu : Mem Byte
  requestAduLength : Nat
  expectedCoils : Mem Byte
  expectedRegisters : Mem Word
  packedCoils : Mem Byte
  started : Word32
  completed : Word32
  passed : Word32
  failed : Word32
  buildErrors : Word32
  decodeErrors : Word32
  verificationPasses : Word32
  verificationFailures : Word32
  mismatchIndex : Word
  mismatchExpected : Word
  mismatchActual : Word

structure MasterReadings where
  coils : Mem Byte
  discreteInputs : Mem Byte
  holdingRegisters : Mem Word
  inputRegisters : Mem Word

structure MasterWatch where
  transactionState : TransactionState
  transactionResult : TransactionResult
  lastExceptionCode : Byte
  lastProtocolResult : ProtocolResult
  lastResponseLength : Nat
  diagnostics : TransactionDiagnostics
  deriving DecidableEq, Repr

/-- Not part of the program: what it has done so far. A cycle is started with a selection that has
been `checked`, and taken as `test` by a second reading. -/
inductive MasterEvent where
  | called (call : TransactionCall)
  | cycleStarted (checked test : MasterTest)
  | cycleFinished (result : TestResult)

structure MasterApp where
  uart : MasterUart
  transaction : Transaction
  settings : MasterSettings
  forceRequest : Byte
  cycle : TestCycle
  readings : MasterReadings
  watch : MasterWatch
  log : List MasterEvent

def modbusMasterSlaveAddress : Byte := 1#8
def modbusMasterTestStartAddress : Word := 0#16
def modbusMasterTestQuantity : Nat := 10
def modbusMasterRequestPeriodMs : Word32 := 1000#32
def modbusMasterFirstRequestDelayMs : Word32 := 500#32
def modbusMasterNoMismatch : Word := 0xFFFF#16

def modbusMasterRequestBuffer : RequestBuffer := ⟨true,1,true,256⟩

def modbusMasterTimeReached (now deadline : Word32) : Bool := 0 ≤ (now-deadline).toInt

def coilValue (value : Byte) : Byte := if value ≠ 0#8 then 1#8 else 0#8

def copyValues {α : Type} (values : Nat → α) (expected : Mem α) : Mem α :=
  (List.range modbusMasterTestQuantity).foldl (fun m i => put m i (values i)) expected

def packCoils (values : Mem Byte) : Mem Byte :=
  (List.range modbusMasterTestQuantity).foldl (fun packed i =>
    if values i ≠ 0#8 then put packed (i/8) (packed (i/8) ||| 1#8 <<< (i%8)) else packed) fun _ => 0

namespace TestCycle
variable (c : TestCycle)

def storeBuilt (built : BuiltRequest) : MasterResult × TestCycle :=
  (built.result,{ c with
    request := built.request
    requestAdu := ofList built.adu
    requestAduLength := built.adu.length })

def readbackCall : BuildCall :=
  if c.currentTest = .fc05 ∨ c.currentTest = .fc0F then
    .readBits modbusMasterSlaveAddress 0x01#8 modbusMasterTestStartAddress
      (BitVec.ofNat 16 modbusMasterTestQuantity)
  else
    .readRegisters modbusMasterSlaveAddress 0x03#8 modbusMasterTestStartAddress
      (BitVec.ofNat 16 modbusMasterTestQuantity)

def expect (settings : MasterSettings) : TestCycle :=
  if c.currentTest = .fc05 then
    { c with expectedCoils := put c.expectedCoils 0 (coilValue settings.singleCoilWriteValue) }
  else if c.currentTest = .fc06 then
    { c with
      expectedRegisters := put c.expectedRegisters 0 settings.singleRegisterWriteValue }
  else if c.currentTest = .fc0F then
    { c with
      expectedCoils := copyValues (fun i => coilValue (settings.multipleCoilWriteValues i))
        c.expectedCoils
      packedCoils := packCoils fun i => coilValue (settings.multipleCoilWriteValues i) }
  else if c.currentTest = .fc10 then
    { c with
      expectedRegisters := copyValues settings.multipleRegisterWriteValues c.expectedRegisters }
  else c

def requestCall : Option BuildCall :=
  if c.currentTest = .fc01 ∨ c.currentTest = .fc02 then
    some (.readBits modbusMasterSlaveAddress (c.currentTest.setWidth 8)
      modbusMasterTestStartAddress (BitVec.ofNat 16 modbusMasterTestQuantity))
  else if c.currentTest = .fc03 ∨ c.currentTest = .fc04 then
    some (.readRegisters modbusMasterSlaveAddress (c.currentTest.setWidth 8)
      modbusMasterTestStartAddress (BitVec.ofNat 16 modbusMasterTestQuantity))
  else if c.currentTest = .fc05 then
    some (.writeSingleCoil modbusMasterSlaveAddress modbusMasterTestStartAddress
      (c.expectedCoils 0))
  else if c.currentTest = .fc06 then
    some (.writeSingleRegister modbusMasterSlaveAddress modbusMasterTestStartAddress
      (c.expectedRegisters 0))
  else if c.currentTest = .fc0F then
    some (.writeMultipleCoils modbusMasterSlaveAddress modbusMasterTestStartAddress
      (BitVec.ofNat 16 modbusMasterTestQuantity) (some c.packedCoils))
  else if c.currentTest = .fc10 then
    some (.writeMultipleRegisters modbusMasterSlaveAddress modbusMasterTestStartAddress
      (BitVec.ofNat 16 modbusMasterTestQuantity) (some c.expectedRegisters))
  else none

end TestCycle

def modbusMasterBuildRequest (c : TestCycle) (settings : MasterSettings) :
    MasterResult × TestCycle :=
  if c.testStep = .verifyReadback then
    c.storeBuilt (c.readbackCall.build modbusMasterRequestBuffer)
  else
    let c := c.expect settings
    match c.requestCall with
    | some call => c.storeBuilt (call.build modbusMasterRequestBuffer)
    | none => c.storeBuilt (.refuse .errorFunction)

/-- The loop of one case of `modbus_master_decode_read_response`. -/
def decodeFrom {α : Type} (decode : Word → Except MasterResult α) :
    (count index : Nat) → Mem α → MasterResult × Mem α
  | 0, _, values => (.ok,values)
  | count+1, index, values =>
    match decode (BitVec.ofNat 16 index) with
    | .error e => (e,values)
    | .ok value => decodeFrom decode count (index+1) (put values index value)

def modbusMasterDecodeReadResponse (t : Transaction) (r : MasterReadings) :
    MasterResult × MasterReadings :=
  let bits := decodeFrom (mbrtumGetBit t.request t.response t.responseAdu) modbusMasterTestQuantity 0
  let registers :=
    decodeFrom (mbrtumGetRegister t.request t.response t.responseAdu) modbusMasterTestQuantity 0
  match t.request.function.toNat with
  | 0x01 => ((bits r.coils).1,{ r with coils := (bits r.coils).2 })
  | 0x02 => ((bits r.discreteInputs).1,{ r with discreteInputs := (bits r.discreteInputs).2 })
  | 0x03 =>
    ((registers r.holdingRegisters).1,{ r with holdingRegisters := (registers r.holdingRegisters).2 })
  | 0x04 =>
    ((registers r.inputRegisters).1,{ r with inputRegisters := (registers r.inputRegisters).2 })
  | _ => (.ok,r)

/-- The comparison loop, with the first mismatch recorded. -/
def compareReadback {w : Nat} (c : TestCycle) (actual expected : Mem (BitVec w)) (count : Nat) :
    Bool × TestCycle :=
  match (List.range count).find? fun i => actual i ≠ expected i with
  | some i => (false,{ c with
      mismatchIndex := BitVec.ofNat 16 i
      mismatchExpected := (expected i).setWidth 16
      mismatchActual := (actual i).setWidth 16 })
  | none => (true,c)

def modbusMasterVerifyReadback (c : TestCycle) (r : MasterReadings) : Bool × TestCycle :=
  let c := { c with
    mismatchIndex := modbusMasterNoMismatch
    mismatchExpected := 0
    mismatchActual := 0 }
  if c.currentTest = .fc05 then compareReadback c r.coils c.expectedCoils 1
  else if c.currentTest = .fc0F then
    compareReadback c r.coils c.expectedCoils modbusMasterTestQuantity
  else
    compareReadback c r.holdingRegisters c.expectedRegisters
      (if c.currentTest = .fc06 then 1 else modbusMasterTestQuantity)

def modbusMasterMapTerminalResult (t : Transaction) : TestResult :=
  match t.result with
  | .modbusException => .exception
  | .timeout => .timeout
  | .transportError => .transportError
  | .responseError => .responseError
  | .cancelled => .cancelled
  | _ => .responseError

namespace MasterApp
variable (a : MasterApp)

def emit (e : MasterEvent) : MasterApp := { a with log := a.log ++ [e] }

def interrupted (is : List MasterInterrupt) : MasterApp := { a with uart := a.uart.interrupts is }

def call (x : UartTransmission) (c : Int → TransactionCall) : TransactionCode × MasterApp :=
  let (made,step,uart) := callTransaction a.transaction a.uart x c
  (step.1.1,MasterApp.emit { a with transaction := step.2, uart := uart } (.called made))

/-- The same for a call that does not transmit. -/
def report (c : TransactionCall) : TransactionCode × MasterApp :=
  let step := transactionStep a.transaction c
  (step.1.1,MasterApp.emit { a with transaction := step.2 } (.called c))

def setProtocolResult (result : ProtocolResult) : MasterApp :=
  { a with watch := { a.watch with lastProtocolResult := result } }

def closeWindow : MasterApp := { a with uart := { a.uart with receiveWindowOpen := 0 } }

end MasterApp

/-- What the hardware does while a request is started: the transmission, and the interrupts
before the two statements after it. -/
structure StartHardware where
  transmission : UartTransmission
  afterStart : List MasterInterrupt
  afterTxComplete : List MasterInterrupt

section MainLoop
variable (a : MasterApp)

def modbusMasterSyncWatchState : MasterApp :=
  let t := a.transaction
  let a := { a with
    watch := { a.watch with
      transactionState := t.state
      transactionResult := t.result
      lastExceptionCode := t.exceptionCode
      diagnostics := t.diagnostics } }
  let a :=
    if a.cycle.active ≠ 0#8 ∨ (a.cycle.lastResult ≠ .buildError ∧
        a.cycle.lastResult ≠ .startError ∧ a.cycle.lastResult ≠ .invalidTest) then
      a.setProtocolResult (.master t.protocolResult)
    else a
  if t.state ≠ .waitingResponse ∧ ¬ (t.state = .transmitting ∧ a.uart.txCompletePending ≠ 0#8) then
    { a with uart := modbusMasterRxResetAll { a.uart with receiveWindowOpen := 0 } }
  else a

def modbusMasterHandleTxComplete : MasterApp :=
  let pending := a.uart.txCompletePending
  let a := { a with uart := { a.uart with txCompletePending := 0 } }
  if pending = 0#8 then a
  else
    let (result,a) := a.report (.onTxComplete a.uart.txCompleteTick)
    if result ≠ .ok then (a.setProtocolResult (.transaction result)).closeWindow else a

def modbusMasterFinishCycle (result : TestResult) (now : Word32) : MasterApp :=
  let c := { a.cycle with
    active := 0
    testStep := .idle
    lastResult := result
    completed := a.cycle.completed+1 }
  let c :=
    if result = .pass then { c with passed := c.passed+1 } else { c with failed := c.failed+1 }
  MasterApp.emit { a with
    cycle := { c with nextCycleMs := now+modbusMasterRequestPeriodMs }
    uart := modbusMasterRxResetAll { a.uart with receiveWindowOpen := 0 } } (.cycleFinished result)

def modbusMasterStartCurrentStep (now : Word32) (x : StartHardware) : MasterApp :=
  let (built,c) := modbusMasterBuildRequest a.cycle a.settings
  let a := { a with cycle := c }
  if built ≠ .ok then
    let a := { a with cycle := { c with buildErrors := c.buildErrors+1 } }
    modbusMasterFinishCycle (a.setProtocolResult (.master built)) .buildError now
  else
    let (result,a) := a.call x.transmission
      (.start (some c.request) (some c.requestAdu) c.requestAduLength now)
    if result ≠ .ok then
      modbusMasterFinishCycle (a.setProtocolResult (.transaction result)) .startError now
    else
      let a := modbusMasterHandleTxComplete (a.interrupted x.afterStart)
      modbusMasterSyncWatchState (a.interrupted x.afterTxComplete)

def refuseTest (checked : MasterTest) (now : Word32) : MasterApp :=
  let a := a.setProtocolResult (.master .errorFunction)
  ((MasterApp.emit { a with
    cycle := { a.cycle with
      currentTest := a.settings.selectedTest
      lastResult := .invalidTest
      started := a.cycle.started+1
      completed := a.cycle.completed+1
      failed := a.cycle.failed+1
      nextCycleMs := now+modbusMasterRequestPeriodMs } }
    (.cycleStarted checked a.settings.selectedTest)).emit (.cycleFinished .invalidTest))

def beginTest (checked : MasterTest) : MasterApp :=
  MasterApp.emit { a with
    cycle := { a.cycle with
      currentTest := a.settings.selectedTest
      testStep := .request
      lastResult := .none
      mismatchIndex := modbusMasterNoMismatch
      mismatchExpected := 0
      mismatchActual := 0
      active := 1
      started := a.cycle.started+1 } } (.cycleStarted checked a.settings.selectedTest)

/-- `modbus_master_start_cycle` from the validity test of the selection `checked` on. Both branches
read the selection a second time. -/
def takeSelectedTest (checked : MasterTest) (now : Word32) (x : StartHardware) : MasterApp :=
  if ¬ modbusMasterTestIsValid checked then refuseTest a checked now
  else modbusMasterStartCurrentStep (beginTest a checked) now x

/-- `modbus_master_start_cycle` up to that test: the selection, unless a cycle is going on. -/
def checkSelectedTest : Option MasterTest :=
  if a.cycle.active ≠ 0#8 then none else some a.settings.selectedTest

def modbusMasterStartCycle (now : Word32) (x : StartHardware) : MasterApp :=
  match checkSelectedTest a with
  | some checked => takeSelectedTest a checked now x
  | none => a

structure TakenFrame where
  bufferIndex : Byte
  length : Nat
  invalidGap : Byte
  overflow : Byte
  deriving DecidableEq, Repr

/-- The first half of `modbus_master_process_response_frame`: a completed frame is taken from the
interrupt handlers. -/
def takePendingFrame : Option TakenFrame × MasterApp :=
  let rx := a.uart.rx
  if rx.pendingReady = 0#8 then (none,a)
  else
    (some ⟨rx.pendingBufferIndex,rx.pendingLength,rx.pendingInvalidGap,rx.pendingOverflow⟩,
      { a with uart := { a.uart with rx := { rx with pendingReady := 0 } } })

/-- The second half: the frame is handed to the transaction, one that is spoilt without a
length. -/
def handResponseFrame (f : TakenFrame) (now : Word32) : MasterApp :=
  let a := { a with watch := { a.watch with lastResponseLength := f.length } }
  if a.transaction.state ≠ .waitingResponse then
    { a with uart := { a.uart with unexpectedBytes := a.uart.unexpectedBytes+1 } }
  else
    let responseAdu := a.uart.rx.buffers f.bufferIndex.toNat
    if f.overflow ≠ 0#8 ∨ f.invalidGap ≠ 0#8 then
      (a.report (.onResponse (some responseAdu) 0 now)).2
    else (a.report (.onResponse (some responseAdu) f.length now)).2

/-- `modbus_master_process_uart_error` up to `modbus_master_rx_reset_all`. -/
def takeUartError : Bool × MasterApp :=
  if a.uart.uartErrorPending = 0#8 then (false,a)
  else (true,{ a with uart := { a.uart with uartErrorPending := 0 } })

def resetReceiver : MasterApp := { a with uart := modbusMasterRxResetAll a.uart }

/-- The rest of it. -/
def reportUartError (now : Word32) : MasterApp :=
  let a := { a with
    uart := { a.uart with
      receiveWindowOpen := if a.transaction.state = .waitingResponse then 1 else 0 } }
  if a.transaction.state = .waitingResponse then
    (a.report (.onResponse (some (a.uart.rx.buffers 0)) 0 now)).2
  else a

def modbusMasterProcessUartError (now : Word32) : MasterApp :=
  match takeUartError a with
  | (true,a) => reportUartError (resetReceiver a) now
  | (false,a) => a

def modbusMasterHandleTerminalTransaction (now : Word32) (x : StartHardware) : MasterApp :=
  if a.cycle.active = 0#8 then a
  else if a.transaction.state = .complete then
    if a.transaction.result = .modbusException then modbusMasterFinishCycle a .exception now
    else if a.transaction.result ≠ .success then modbusMasterFinishCycle a .responseError now
    else if a.cycle.testStep = .request ∧ modbusMasterTestIsWrite a.cycle.currentTest then
      modbusMasterStartCurrentStep
        { a with cycle := { a.cycle with testStep := .verifyReadback } } now x
    else
      let (result,readings) := modbusMasterDecodeReadResponse a.transaction a.readings
      let a := { a with readings := readings }
      if result ≠ .ok then
        let a := { a with cycle := { a.cycle with decodeErrors := a.cycle.decodeErrors+1 } }
        modbusMasterFinishCycle (a.setProtocolResult (.master result)) .decodeError now
      else if a.cycle.testStep = .verifyReadback then
        let (matched,c) := modbusMasterVerifyReadback a.cycle a.readings
        if ¬ matched then
          modbusMasterFinishCycle
            { a with cycle := { c with verificationFailures := c.verificationFailures+1 } }
            .verifyError now
        else
          modbusMasterFinishCycle
            { a with cycle := { c with verificationPasses := c.verificationPasses+1 } } .pass now
      else modbusMasterFinishCycle a .pass now
  else if a.transaction.state = .failed ∨ a.transaction.state = .cancelled then
    modbusMasterFinishCycle a (modbusMasterMapTerminalResult a.transaction) now
  else a

/-- The end of `modbus_master_process`. -/
def startDue (now : Word32) (x : StartHardware) : MasterApp :=
  if a.cycle.active ≠ 0#8 then a
  else if a.forceRequest ≠ 0#8 then modbusMasterStartCycle { a with forceRequest := 0 } now x
  else if a.settings.autoPollEnabled ≠ 0#8 ∧ modbusMasterTimeReached now a.cycle.nextCycleMs then
    modbusMasterStartCycle a now x
  else a

/-- The same up to the first reading of the selected test. -/
def startDueCycle (now : Word32) : Option MasterTest × MasterApp :=
  if a.cycle.active ≠ 0#8 then (none,a)
  else if a.forceRequest ≠ 0#8 then (checkSelectedTest a,{ a with forceRequest := 0 })
  else if a.settings.autoPollEnabled ≠ 0#8 ∧ modbusMasterTimeReached now a.cycle.nextCycleMs then
    (checkSelectedTest a,a)
  else (none,a)

end MainLoop

/-! The main loop and its interrupts. -/

/-- The next statement of `modbus_master_process`, with its variables. -/
inductive MasterPhase where
  | outside
  | txComplete
  | takeFrame
  | handFrame (f : TakenFrame) (now : Word32)
  | uartError (now : Word32)
  | resetReceiver (now : Word32)
  | reportError (now : Word32)
  | poll (now : Word32)
  | txCompleteAgain (now : Word32)
  | sync (now : Word32)
  | terminal (now : Word32)
  | syncAgain (now : Word32)
  | startDue (now : Word32)
  | takeTest (checked : MasterTest) (now : Word32)

structure MasterLoop where
  app : MasterApp
  phase : MasterPhase

/-- What the hardware does during a statement of the main loop; a statement uses what it needs. -/
structure MasterHardware where
  uartReady : Bool
  armed : Bool
  now : Word32
  start : StartHardware

def modbusMasterProcessStep (m : MasterLoop) (h : MasterHardware) : MasterLoop :=
  let a := m.app
  match m.phase with
  | .outside =>
    if a.uart.initialized = 0#8 then m
    else
      ⟨{ a with uart := modbusMasterEnsureReceiveArmed a.uart h.uartReady h.armed },.txComplete⟩
  | .txComplete => ⟨modbusMasterHandleTxComplete a,.takeFrame⟩
  | .takeFrame =>
    match takePendingFrame a with
    | (some f,a) => ⟨a,.handFrame f h.now⟩
    | (none,a) => ⟨a,.uartError h.now⟩
  | .handFrame f now => ⟨handResponseFrame a f now,.uartError now⟩
  | .uartError now =>
    match takeUartError a with
    | (true,a) => ⟨a,.resetReceiver now⟩
    | (false,a) => ⟨a,.poll now⟩
  | .resetReceiver now => ⟨resetReceiver a,.reportError now⟩
  | .reportError now => ⟨reportUartError a now,.poll now⟩
  | .poll now => ⟨(a.call h.start.transmission (.poll now)).2,.txCompleteAgain now⟩
  | .txCompleteAgain now => ⟨modbusMasterHandleTxComplete a,.sync now⟩
  | .sync now => ⟨modbusMasterSyncWatchState a,.terminal now⟩
  | .terminal now => ⟨modbusMasterHandleTerminalTransaction a now h.start,.syncAgain now⟩
  | .syncAgain now => ⟨modbusMasterSyncWatchState a,.startDue now⟩
  | .startDue now =>
    match startDueCycle a now with
    | (some checked,a) => ⟨a,.takeTest checked now⟩
    | (none,a) => ⟨a,.outside⟩
  | .takeTest checked now => ⟨takeSelectedTest a checked now h.start,.outside⟩

inductive MasterInput where
  | interrupt (i : MasterInterrupt)
  | process (h : MasterHardware)
  | edit (settings : MasterSettings)
  | requestNow

def masterLoopStep (m : MasterLoop) (x : MasterInput) : List MasterEvent × MasterLoop :=
  let after : MasterLoop :=
    match x with
    | .interrupt i => { m with app := m.app.interrupted [i] }
    | .process h => modbusMasterProcessStep m h
    | .edit settings => { m with app := { m.app with settings := settings } }
    | .requestNow => { m with app := { m.app with forceRequest := 1 } }
  (after.app.log.drop m.app.log.length,after)

/-- `modbus_master_process` when nothing interrupts it. -/
def modbusMasterProcess (a : MasterApp) (h : MasterHardware) : MasterApp :=
  if a.uart.initialized = 0#8 then a
  else
    let a := { a with uart := modbusMasterEnsureReceiveArmed a.uart h.uartReady h.armed }
    let a := modbusMasterHandleTxComplete a
    let a :=
      match takePendingFrame a with
      | (some f,a) => handResponseFrame a f h.now
      | (none,a) => a
    let a := modbusMasterProcessUartError a h.now
    let a := modbusMasterHandleTxComplete (a.call h.start.transmission (.poll h.now)).2
    let a := modbusMasterHandleTerminalTransaction (modbusMasterSyncWatchState a) h.now h.start
    startDue (modbusMasterSyncWatchState a) h.now h.start

/-! The start of the program. -/

def modbusMasterConfig : TransactionConfig := ⟨1000#32,100#32,2#16,1#8⟩

def MasterApp.powerOn : MasterApp where
  uart :=
    { rx := ⟨fun _ _ => 0,⟨0,0,0,0,0⟩,0,0,0,0,0,0,0,0,0,0,0⟩
      initialized := 0
      receiveWindowOpen := 0
      uartErrorPending := 0
      txCompletePending := 0
      txCompleteTick := 0
      currentFunction := 0
      receivedBytes := 0
      detectedFrames := 0
      invalidGapFrames := 0
      overflowFrames := 0
      overrunFrames := 0
      unexpectedBytes := 0
      uartErrorCount := 0
      uartRecoveryCount := 0 }
  transaction := { Transaction.initialized ⟨0,0,0,0⟩ with initializationCookie := 0 }
  settings :=
    { selectedTest := .fc03
      autoPollEnabled := 1
      singleCoilWriteValue := 1
      singleRegisterWriteValue := 0x1234
      multipleCoilWriteValues := fun i => if i%2 = 0 then 1 else 0
      multipleRegisterWriteValues := fun i => 0x1000+BitVec.ofNat 16 i }
  forceRequest := 0
  cycle :=
    { currentTest := .fc03
      testStep := .idle
      lastResult := .none
      active := 0
      nextCycleMs := 0
      request := .cleared
      requestAdu := fun _ => 0
      requestAduLength := 0
      expectedCoils := fun _ => 0
      expectedRegisters := fun _ => 0
      packedCoils := fun _ => 0
      started := 0
      completed := 0
      passed := 0
      failed := 0
      buildErrors := 0
      decodeErrors := 0
      verificationPasses := 0
      verificationFailures := 0
      mismatchIndex := modbusMasterNoMismatch
      mismatchExpected := 0
      mismatchActual := 0 }
  readings := ⟨fun _ => 0,fun _ => 0,fun _ => 0,fun _ => 0⟩
  watch := ⟨.idle,.none,0,.master .ok,0,⟨0,0,0,0,0,0,0,0,0,0,0⟩⟩
  log := []

/-- The end of `modbus_master_init`, with the object and the timing it has made. -/
def MasterApp.ready (a : MasterApp) (timing : RtuTiming) (t : Transaction) (tick : Word32)
    (armed : Bool) : Bool × MasterApp :=
  let uart := modbusMasterRxResetAll { a.uart with rx := { a.uart.rx with timing := timing } }
  let a := modbusMasterSyncWatchState { a with
    transaction := t
    uart := { uart with
      uartErrorPending := 0
      txCompletePending := 0
      receiveWindowOpen := 0
      initialized := 1 }
    forceRequest := 0
    cycle := { a.cycle with
      active := 0
      testStep := .idle
      lastResult := .none
      nextCycleMs := tick+modbusMasterFirstRequestDelayMs }
    watch := { a.watch with lastProtocolResult := .master .ok } }
  if ¬ armed then
    (false,{ a with
      uart := { a.uart with
        uartErrorCount := a.uart.uartErrorCount+1
        initialized := 0 }
      cycle := { a.cycle with lastResult := .uartError } })
  else (true,a)

/-- `tick` is what `HAL_GetTick` returns and `armed` the outcome of `HAL_UART_Receive_IT`. -/
def modbusMasterInit (a : MasterApp) (tick : Word32) (armed : Bool) : Bool × MasterApp :=
  let a := { a with
    uart := { a.uart with rx := MasterApp.powerOn.uart.rx }
    transaction := MasterApp.powerOn.transaction
    settings := { a.settings with
      multipleCoilWriteValues := fun i =>
        if i < modbusMasterTestQuantity then (if i%2 = 0 then 1 else 0)
        else a.settings.multipleCoilWriteValues i
      multipleRegisterWriteValues := fun i =>
        if i < modbusMasterTestQuantity then 0x1000+BitVec.ofNat 16 i
        else a.settings.multipleRegisterWriteValues i }
    cycle := { a.cycle with
      request := .cleared
      requestAdu := fun _ => 0
      expectedCoils := fun _ => 0
      expectedRegisters := fun _ => 0 }
    readings := ⟨fun _ => 0,fun _ => 0,fun _ => 0,fun _ => 0⟩ }
  match mbrtuCalculateTiming 115200#32 8#8 0#8 1#8 with
  | .error e =>
    (false,{ a.setProtocolResult (.timing e) with
      cycle := { a.cycle with lastResult := .buildError } })
  | .ok timing =>
    match mbrtumTransactionInit (some modbusMasterConfig) true with
    | .error e =>
      (false,{ a.setProtocolResult (.transaction e) with
        uart := { a.uart with rx := { a.uart.rx with timing := timing } }
        cycle := { a.cycle with lastResult := .buildError } })
    | .ok t => a.ready timing t tick armed

end ModbusStack
