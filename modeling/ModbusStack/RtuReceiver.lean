import ModbusStack.RtuAdu

/-! The bare-metal receive path of `modbus_rtu.c`: timing, the two interrupt handlers and
the main-loop poll. -/
set_option autoImplicit false

namespace ModbusStack
open ByteMemory

abbrev Word32 := BitVec 32

structure RtuTiming where
  characterTicks : Word32
  t15Ticks : Word32
  t35Ticks : Word32
  byteCompleteT15Ticks : Word32
  byteCompleteT35Ticks : Word32
  deriving DecidableEq, Repr

inductive RtuInitError where
  | argument | slaveAddress | serialConfig
  deriving DecidableEq, Repr

def ceilDivU64 (numerator denominator : BitVec 64) : Word32 :=
  ((numerator+denominator-1)/denominator).setWidth 32

def mbrtuCalculateTiming (baudRate : Word32) (dataBits parityBits stopBits : Byte) :
    Except RtuInitError RtuTiming :=
  if baudRate = 0 ∨ dataBits.toNat < 5 ∨ 9 < dataBits.toNat ∨ 1 < parityBits.toNat ∨
      stopBits.toNat < 1 ∨ 2 < stopBits.toNat then .error .serialConfig
  else
    let bitsPerCharacter : BitVec 64 :=
      1+dataBits.setWidth 64+parityBits.setWidth 64+stopBits.setWidth 64
    let baud : BitVec 64 := baudRate.setWidth 64
    let characterTicks := ceilDivU64 (bitsPerCharacter*1000000) (baud*50)
    let timing : RtuTiming :=
      if 19200 < baudRate.toNat then
        ⟨characterTicks,15,35,ceilDivU64 (750*baud+bitsPerCharacter*1000000) (baud*50),
          ceilDivU64 (1750*baud+bitsPerCharacter*1000000) (baud*50)⟩
      else
        ⟨characterTicks,ceilDivU64 (15*bitsPerCharacter*1000000) (10*baud*50),
          ceilDivU64 (35*bitsPerCharacter*1000000) (10*baud*50),
          ceilDivU64 (25*bitsPerCharacter*1000000) (10*baud*50),
          ceilDivU64 (45*bitsPerCharacter*1000000) (10*baud*50)⟩
    if timing.characterTicks = 0 ∨ timing.t15Ticks = 0 ∨ timing.t35Ticks = 0 ∨
        timing.byteCompleteT15Ticks = 0 ∨ timing.byteCompleteT35Ticks = 0 ∨
        timing.t35Ticks.toNat ≤ timing.t15Ticks.toNat ∨
        timing.byteCompleteT35Ticks.toNat ≤ timing.byteCompleteT15Ticks.toNat then
      .error .serialConfig
    else .ok timing

/-- A caller-owned buffer: its address, 0 for NULL, and what it holds. -/
structure RtuBuffer where
  address : Nat
  bytes : Mem Byte

structure RtuConfig where
  slaveAddress : Byte
  baudRate : Word32
  dataBits : Byte
  parityBits : Byte
  stopBits : Byte
  receiveBufferA : RtuBuffer
  receiveBufferB : RtuBuffer
  receiveBufferCapacity : Nat
  responseBuffer : Nat
  responseBufferCapacity : Nat
  hasTransmit : Bool

structure RtuContext where
  slaveAddress : Byte
  receiveBuffers : Mem (Mem Byte)
  receiveBufferCapacity : Nat
  responseBufferCapacity : Nat
  timing : RtuTiming
  gapTicks : Word32
  activeLength : Nat
  pendingLength : Nat
  activeBufferIndex : Byte
  pendingBufferIndex : Byte
  frameActive : Byte
  activeInvalidGap : Byte
  activeOverflow : Byte
  pendingReady : Byte
  pendingInvalidGap : Byte
  pendingOverflow : Byte
  initialized : Byte
  receivedBytes : Word32
  detectedFrameBoundaries : Word32
  queuedFrames : Word32
  invalidGapEvents : Word32
  overflowEvents : Word32
  overrunFrames : Word32
  noResponseFrames : Word32
  responsesSent : Word32
  processingErrors : Word32
  transmitErrors : Word32
  diagnosticsPolicy : DiagnosticsPolicy

def resetActiveFrame (ctx : RtuContext) : RtuContext :=
  { ctx with
    gapTicks := 0
    activeLength := 0
    frameActive := 0
    activeInvalidGap := 0
    activeOverflow := 0 }

def mbrtuInit (config : RtuConfig) : Except RtuInitError RtuContext :=
  if config.receiveBufferA.address = 0 ∨ config.receiveBufferB.address = 0 ∨
      config.responseBuffer = 0 ∨ ¬ config.hasTransmit ∨
      config.receiveBufferA.address = config.receiveBufferB.address ∨
      config.receiveBufferA.address = config.responseBuffer ∨
      config.receiveBufferB.address = config.responseBuffer ∨
      config.receiveBufferCapacity < 4 ∨ 256 < config.receiveBufferCapacity ∨
      config.responseBufferCapacity < 5 then .error .argument
  else if config.slaveAddress.toNat < 1 ∨ 247 < config.slaveAddress.toNat then .error .slaveAddress
  else
    match mbrtuCalculateTiming config.baudRate config.dataBits config.parityBits config.stopBits with
    | .error e => .error e
    | .ok timing => .ok {
        slaveAddress := config.slaveAddress
        receiveBuffers := fun i =>
          if i = 0 then config.receiveBufferA.bytes else config.receiveBufferB.bytes
        receiveBufferCapacity := config.receiveBufferCapacity
        responseBufferCapacity := config.responseBufferCapacity
        timing := timing
        gapTicks := 0
        activeLength := 0
        pendingLength := 0
        activeBufferIndex := 0
        pendingBufferIndex := 0
        frameActive := 0
        activeInvalidGap := 0
        activeOverflow := 0
        pendingReady := 0
        pendingInvalidGap := 0
        pendingOverflow := 0
        initialized := 1
        receivedBytes := 0
        detectedFrameBoundaries := 0
        queuedFrames := 0
        invalidGapEvents := 0
        overflowEvents := 0
        overrunFrames := 0
        noResponseFrames := 0
        responsesSent := 0
        processingErrors := 0
        transmitErrors := 0
        diagnosticsPolicy := none }

structure CompletedFrame where
  bytes : List Byte
  invalidGap : Byte
  overflow : Byte
  deriving DecidableEq, Repr

def RtuContext.activeFrame (ctx : RtuContext) : CompletedFrame :=
  ⟨slice (ctx.receiveBuffers ctx.activeBufferIndex.toNat) 0 ctx.activeLength,
    ctx.activeInvalidGap,ctx.activeOverflow⟩

def RtuContext.pendingFrame (ctx : RtuContext) : CompletedFrame :=
  ⟨slice (ctx.receiveBuffers ctx.pendingBufferIndex.toNat) 0 ctx.pendingLength,
    ctx.pendingInvalidGap,ctx.pendingOverflow⟩

def completeActiveFrameIsr (ctx : RtuContext) : Option CompletedFrame × RtuContext :=
  if ctx.frameActive = 0#8 then (none,ctx)
  else
    let frame := ctx.activeFrame
    let ctx := { ctx with detectedFrameBoundaries := ctx.detectedFrameBoundaries+1 }
    let ctx :=
      if ctx.pendingReady = 0#8 then
        { ctx with
          pendingBufferIndex := ctx.activeBufferIndex
          pendingLength := ctx.activeLength
          pendingInvalidGap := ctx.activeInvalidGap
          pendingOverflow := ctx.activeOverflow
          activeBufferIndex := ctx.activeBufferIndex ^^^ 1
          pendingReady := 1
          queuedFrames := ctx.queuedFrames+1 }
      else { ctx with overrunFrames := ctx.overrunFrames+1 }
    (some frame,resetActiveFrame ctx)

/-- The second half of the byte handler: the byte is stored unless the frame is spoilt. -/
def storeByte (ctx : RtuContext) (byte : Byte) : RtuContext :=
  if ctx.activeInvalidGap ≠ 0#8 ∨ ctx.activeOverflow ≠ 0#8 then ctx
  else if ctx.receiveBufferCapacity ≤ ctx.activeLength then
    { ctx with activeOverflow := 1, overflowEvents := ctx.overflowEvents+1 }
  else
    let active := ctx.receiveBuffers ctx.activeBufferIndex.toNat
    { ctx with
      receiveBuffers := put ctx.receiveBuffers ctx.activeBufferIndex.toNat
        (put active ctx.activeLength byte)
      activeLength := ctx.activeLength+1 }

def mbrtuOnRxByteIsr (ctx : RtuContext) (byte : Byte) : Option CompletedFrame × RtuContext :=
  if ctx.initialized = 0#8 then (none,ctx)
  else
    let ctx := { ctx with receivedBytes := ctx.receivedBytes+1 }
    let (frame,ctx) :=
      if ctx.frameActive ≠ 0#8 then
        if ctx.timing.byteCompleteT35Ticks.toNat ≤ ctx.gapTicks.toNat then
          completeActiveFrameIsr ctx
        else if ctx.timing.byteCompleteT15Ticks.toNat < ctx.gapTicks.toNat ∧
            ctx.activeInvalidGap = 0#8 then
          (none,{ ctx with activeInvalidGap := 1, invalidGapEvents := ctx.invalidGapEvents+1 })
        else (none,ctx)
      else (none,ctx)
    (frame,storeByte { ctx with gapTicks := 0, frameActive := 1 } byte)

def mbrtuOn50usTickIsr (ctx : RtuContext) : Option CompletedFrame × RtuContext :=
  if ctx.initialized = 0#8 ∨ ctx.frameActive = 0#8 then (none,ctx)
  else
    let ctx := if ctx.gapTicks.toNat < ctx.timing.byteCompleteT35Ticks.toNat then
        { ctx with gapTicks := ctx.gapTicks+1 }
      else ctx
    if ctx.timing.byteCompleteT35Ticks.toNat ≤ ctx.gapTicks.toNat then completeActiveFrameIsr ctx
    else (none,ctx)

inductive PollResult where
  | idle | responseSent | noResponse | frameDropped | errorArgument | errorTransmit
  | error : RtuResult → PollResult
  deriving DecidableEq, Repr

/-- `slave.diagnostics` is the object attached to the context, `transmitResult` what the
transmit callback returns if it is called. -/
def mbrtuPoll (cfg : Platform) (ctx : RtuContext) (slave : Slave) (transmitResult : Int) :
    PollResult × RtuContext × Slave :=
  if ctx.initialized = 0#8 then (.errorArgument,ctx,slave)
  else if ctx.pendingReady = 0#8 then (.idle,ctx,slave)
  else
    let request := ctx.receiveBuffers ctx.pendingBufferIndex.toNat
    if ctx.pendingInvalidGap ≠ 0#8 ∨ ctx.pendingOverflow ≠ 0#8 then
      let broadcast := decide (0 < ctx.pendingLength ∧ request 0 = 0#8)
      let slave := slave.note fun d =>
        if ctx.pendingOverflow ≠ 0#8 then
          d.noteCharacterOverrun broadcast
            (decide (0 < ctx.pendingLength ∧ request 0 = ctx.slaveAddress))
        else d.noteCommunicationError broadcast false
      (.frameDropped,{ ctx with pendingReady := 0 },slave)
    else
      let (result,slave) := mbrtuProcessAduWithDiagnostics cfg slave request ctx.slaveAddress
        ctx.diagnosticsPolicy ctx.pendingLength ctx.responseBufferCapacity
      let ctx := { ctx with pendingReady := 0 }
      match result with
      | .responseReady _ =>
        if transmitResult ≠ 0 then
          (.errorTransmit,{ ctx with transmitErrors := ctx.transmitErrors+1 },slave)
        else (.responseSent,{ ctx with responsesSent := ctx.responsesSent+1 },slave)
      | .noResponse => (.noResponse,{ ctx with noResponseFrames := ctx.noResponseFrames+1 },slave)
      | e => (.error e,{ ctx with processingErrors := ctx.processingErrors+1 },slave)

end ModbusStack
