import ModbusStack.MasterResponse
import ModbusStack.RtuReceiver

/-! The master transaction engine, `modbus_rtu_master_transaction.c`. The transport
callback is an oracle: each call of the interface comes with the answer that the
callback would give, and returns the frames that were handed to it. -/
set_option autoImplicit false

namespace ModbusStack
open ByteMemory

inductive TransactionCode where
  | ok
  | errorArgument | errorBusy | errorState | errorCapacity | errorConfig | errorNotInitialized
  | errorRequest
  deriving DecidableEq, Repr

def TransactionCode.isError (c : TransactionCode) : Bool := c ≠ .ok

inductive TransactionState where
  | idle | transmitting | waitingResponse | retryDelay | complete | failed | cancelled
  deriving DecidableEq, Repr

inductive TransactionResult where
  | none | success | modbusException | timeout | transportError | responseError | cancelled
  deriving DecidableEq, Repr

structure TransactionConfig where
  responseTimeoutTicks : Word32
  retryDelayTicks : Word32
  maxRetries : Word
  retryTransportErrors : Byte
  deriving DecidableEq, Repr

structure TransactionDiagnostics where
  transactionsStarted : Word32
  successfulTransactions : Word32
  exceptionResponses : Word32
  transmissionAttempts : Word32
  retriesPerformed : Word32
  timeouts : Word32
  transportErrors : Word32
  malformedResponses : Word32
  unrelatedResponses : Word32
  lateResponses : Word32
  cancelledTransactions : Word32
  deriving DecidableEq, Repr

/-- `mbrtum_transaction_t`; `response.data` points into `responseAdu`, and the value 0 of
`protocol_result` stands for no result as well as for `MBRTUM_OK`. -/
structure Transaction where
  state : TransactionState
  result : TransactionResult
  protocolResult : MasterResult
  exceptionCode : Byte
  config : TransactionConfig
  request : Request
  requestAdu : Mem Byte
  requestAduLength : Nat
  responseAdu : Mem Byte
  responseAduLength : Nat
  response : Response
  deadline : Word32
  initializationCookie : Word32
  retriesUsed : Word
  sawResponseError : Byte
  diagnostics : TransactionDiagnostics

def increment32 (value : Word32) : Word32 := if value ≠ 0xFFFFFFFF#32 then value+1 else value

def deadlineReached (now deadline : Word32) : Bool := 0 ≤ (now-deadline).toInt

def durationIsValid (duration : Word32) : Bool := duration.toNat ≤ 2147483647

def stateIsActive (state : TransactionState) : Bool :=
  state = .transmitting ∨ state = .waitingResponse ∨ state = .retryDelay

def initializationCookieValue : Word32 := 0x4D425458#32

def Transaction.isInitialized (t : Transaction) : Bool :=
  t.initializationCookie = initializationCookieValue

/-! The check of the request before anything is sent. -/

section Matching
variable (request : Request) (adu : Mem Byte) (aduLength : Nat)

def wordAt (offset : Nat) (value : Word) : Bool :=
  adu offset = hiByte value ∧ adu (offset+1) = loByte value

def expectedUnlessBroadcast : Byte := if request.slaveAddress ≠ 0#8 then 1#8 else 0#8

def writeFileRecordMatches : Bool :=
  if request.startAddress.toNat < 9 ∨ 251 < request.startAddress.toNat ∨
      request.quantity = 0#16 ∨ 27 < request.quantity.toNat ∨ request.value ≠ 0#16 ∨
      request.writeStartAddress ≠ 0#16 ∨ request.writeQuantity ≠ 0#16 ∨
      request.expectsResponse ≠ expectedUnlessBroadcast request ∨
      aduLength ≠ 5+request.startAddress.toNat ∨ adu 2 ≠ loByte request.startAddress then false
  else
    let dataEnd := aduLength-2
    match scanWriteSubrequests adu dataEnd dataEnd 3 0 with
    | none => false
    | some (offset,count) => offset = dataEnd ∧ count = request.quantity.toNat

def maskWriteMatches : Bool :=
  request.expectsResponse = expectedUnlessBroadcast request ∧ request.writeStartAddress = 0#16 ∧
    request.writeQuantity = 0#16 ∧ aduLength = 10 ∧ wordAt adu 2 request.startAddress ∧
    wordAt adu 4 request.quantity ∧ wordAt adu 6 request.value

def readFileRecordMatches : Bool :=
  if request.slaveAddress = 0#8 ∨ request.expectsResponse ≠ 1#8 ∨
      request.startAddress.toNat < 7 ∨ 245 < request.startAddress.toNat ∨
      request.startAddress.toNat%7 ≠ 0 ∨ request.quantity.toNat < 4 ∨
      245 < request.quantity.toNat ∨ request.value = 0#16 ∨ 35 < request.value.toNat ∨
      request.value.toNat ≠ request.startAddress.toNat/7 ∨
      request.writeStartAddress ≠ 0#16 ∨ request.writeQuantity ≠ 0#16 ∨
      aduLength ≠ 5+request.startAddress.toNat ∨ adu 2 ≠ loByte request.startAddress then false
  else
    match scanReadSubrequests adu (aduLength-2) aduLength 3 0 0 with
    | none => false
    | some (responseDataLength,count) =>
      responseDataLength = request.quantity.toNat ∧ count = request.value.toNat

def readWriteMatches : Bool :=
  if request.slaveAddress = 0#8 ∨ request.expectsResponse ≠ 1#8 ∨ request.value ≠ 0#16 ∨
      request.quantity = 0#16 ∨ 125 < request.quantity.toNat ∨ request.writeQuantity = 0#16 ∨
      121 < request.writeQuantity.toNat ∨
      65536 < request.startAddress.toNat+request.quantity.toNat ∨
      65536 < request.writeStartAddress.toNat+request.writeQuantity.toNat then false
  else
    let expectedByteCount := request.writeQuantity.toNat*2
    aduLength = 13+expectedByteCount ∧ wordAt adu 2 request.startAddress ∧
      wordAt adu 4 request.quantity ∧ wordAt adu 6 request.writeStartAddress ∧
      wordAt adu 8 request.writeQuantity ∧ (adu 10).toNat = expectedByteCount

def readFifoMatches : Bool :=
  request.slaveAddress ≠ 0#8 ∧ request.expectsResponse = 1#8 ∧ request.quantity = 0#16 ∧
    request.value = 0#16 ∧ request.writeStartAddress = 0#16 ∧ request.writeQuantity = 0#16 ∧
    aduLength = 6 ∧ wordAt adu 2 request.startAddress

def meiMatches : Bool :=
  if request.slaveAddress = 0#8 ∨ request.expectsResponse ≠ 1#8 ∨
      request.writeStartAddress ≠ 0#16 ∨ request.writeQuantity ≠ 0#16 then false
  else if request.value = 0x0E#16 then
    1 ≤ request.startAddress.toNat ∧ request.startAddress.toNat ≤ 4 ∧
      request.quantity.toNat ≤ 255 ∧ aduLength = 7 ∧ adu 2 = 0x0E#8 ∧
      adu 3 = loByte request.startAddress ∧ adu 4 = loByte request.quantity
  else
    request.value.toNat ≤ 255 ∧ request.value ≠ 0x0D#16 ∧ request.startAddress.toNat ≤ 251 ∧
      request.quantity = 0#16 ∧ aduLength = 5+request.startAddress.toNat ∧
      adu 2 = loByte request.value

def diagnosticsMatches : Bool :=
  if ¬ diagnosticSubfunctionIsSupported request.startAddress ∨ 250 < request.quantity.toNat ∨
      request.quantity.toNat%2 ≠ 0 ∨ request.value ≠ 0#16 ∨
      aduLength ≠ 6+request.quantity.toNat ∨ ¬ wordAt adu 2 request.startAddress ∨
      request.expectsResponse ≠
        (if request.slaveAddress ≠ 0#8 ∧ request.startAddress ≠ 0x0004#16 then 1#8 else 0#8) then
    false
  else if request.slaveAddress = 0#8 ∧
      ¬ diagnosticSubfunctionIsStateChanging request.startAddress then false
  else if request.startAddress = 0x0000#16 then true
  else if request.quantity ≠ 2#16 then false
  else diagnosticDataIsValid request.startAddress (be16 (adu 4) (adu 5))

def statusMatches : Bool :=
  request.slaveAddress ≠ 0#8 ∧ request.expectsResponse = 1#8 ∧ request.startAddress = 0#16 ∧
    request.quantity = 0#16 ∧ request.value = 0#16 ∧ aduLength = 4

def serverIdMatches : Bool :=
  request.slaveAddress ≠ 0#8 ∧ request.expectsResponse = 1#8 ∧ request.startAddress = 0#16 ∧
    request.quantity ≠ 0#16 ∧ request.quantity.toNat ≤ 250 ∧ request.value = 0#16 ∧
    request.writeStartAddress = 0#16 ∧ request.writeQuantity = 0#16 ∧ aduLength = 4

/-- The chain of per-function cases. There is none for FC01 to FC06, FC0F and FC10, nor for
functions that no builder knows. -/
def functionFieldsMatch : Bool :=
  match request.function.toNat with
  | 0x15 => writeFileRecordMatches request adu aduLength
  | 0x16 => maskWriteMatches request adu aduLength
  | 0x14 => readFileRecordMatches request adu aduLength
  | 0x17 => readWriteMatches request adu aduLength
  | 0x18 => readFifoMatches request adu aduLength
  | 0x2B => meiMatches request adu aduLength
  | 0x08 => diagnosticsMatches request adu aduLength
  | 0x07 | 0x0B | 0x0C => statusMatches request aduLength
  | 0x11 => serverIdMatches request aduLength
  | _ => true

def requestAduMatchesDescriptor : Bool :=
  if 247 < request.slaveAddress.toNat ∨ aduLength < 4 then false
  else if adu 0 ≠ request.slaveAddress ∨ adu 1 ≠ request.function then false
  else if request.slaveAddress = 0#8 ∧ request.expectsResponse ≠ 0#8 then false
  else if ¬ functionFieldsMatch request adu aduLength then false
  else
    let calculatedCrc := mbCrc16 adu (aduLength-2)
    adu (aduLength-2) = loByte calculatedCrc ∧ adu (aduLength-1) = hiByte calculatedCrc

end Matching

/-! The state machine. -/

/-- A return code, the frames handed to the transport, and the object afterwards. -/
abbrev TransactionStep := (TransactionCode × List (List Byte)) × Transaction

namespace Transaction
variable (t : Transaction)

def count (f : TransactionDiagnostics → TransactionDiagnostics) : Transaction :=
  { t with diagnostics := f t.diagnostics }

def clearResponse : Transaction :=
  { t with
    responseAdu := fun _ => 0
    responseAduLength := 0
    response := .cleared
    protocolResult := .ok
    exceptionCode := 0 }

def finish (state : TransactionState) (result : TransactionResult) : Transaction :=
  { t with state := state, result := result }

def scheduleRetryOrFinish (now : Word32) (finalResult : TransactionResult) : Transaction :=
  if t.retriesUsed.toNat < t.config.maxRetries.toNat then
    { t.count fun d => { d with retriesPerformed := increment32 d.retriesPerformed } with
      retriesUsed := t.retriesUsed+1#16
      deadline := now+t.config.retryDelayTicks
      state := .retryDelay }
  else t.finish .failed finalResult

def handleResponseTimeout (now : Word32) : Transaction :=
  (t.count fun d => { d with timeouts := increment32 d.timeouts }).scheduleRetryOrFinish now
    (if t.sawResponseError ≠ 0#8 then .responseError else .timeout)

def transportFailed (now : Word32) : Transaction :=
  let t := t.count fun d => { d with transportErrors := increment32 d.transportErrors }
  if t.config.retryTransportErrors ≠ 0#8 then t.scheduleRetryOrFinish now .transportError
  else t.finish .failed .transportError

/-- The object as the transport callback finds it. -/
def sending : Transaction :=
  let t := { t.clearResponse with sawResponseError := 0, state := .transmitting }
  t.count fun d => { d with transmissionAttempts := increment32 d.transmissionAttempts }

def beginTransmit (transportResult : Int) (now : Word32) : TransactionStep :=
  let t := t.sending
  ((.ok,[slice t.requestAdu 0 t.requestAduLength]),
    if transportResult = 0 then t else t.transportFailed now)

def load (request : Request) (requestAdu : Mem Byte) (requestAduLength : Nat) : Transaction :=
  let t := { t with
    request := request
    requestAdu := store t.requestAdu 0 (slice requestAdu 0 requestAduLength)
    requestAduLength := requestAduLength
    retriesUsed := 0
    result := .none }
  t.count fun d => { d with transactionsStarted := increment32 d.transactionsStarted }

def start (request : Option Request) (requestAdu : Option (Mem Byte)) (requestAduLength : Nat)
    (now : Word32) (transportResult : Int) : TransactionStep :=
  match request, requestAdu with
  | some request, some requestAdu =>
    if ¬ t.isInitialized then ((.errorNotInitialized,[]),t)
    else if stateIsActive t.state then ((.errorBusy,[]),t)
    else if requestAduLength = 0 ∨ 256 < requestAduLength then ((.errorCapacity,[]),t)
    else if ¬ requestAduMatchesDescriptor request requestAdu requestAduLength then
      ((.errorRequest,[]),t)
    else (t.load request requestAdu requestAduLength).beginTransmit transportResult now
  | _, _ => ((.errorArgument,[]),t)

def poll (now : Word32) (transportResult : Int) : TransactionStep :=
  if ¬ t.isInitialized then ((.errorNotInitialized,[]),t)
  else if t.state = .retryDelay then
    if deadlineReached now t.deadline then t.beginTransmit transportResult now else ((.ok,[]),t)
  else if t.state ≠ .waitingResponse then ((.ok,[]),t)
  else if ¬ deadlineReached now t.deadline then ((.ok,[]),t)
  else ((.ok,[]),t.handleResponseTimeout now)

def onTxComplete (now : Word32) : TransactionStep :=
  if ¬ t.isInitialized then ((.errorNotInitialized,[]),t)
  else if t.state ≠ .transmitting then ((.errorState,[]),t)
  else if t.request.expectsResponse = 0#8 then
    let t := t.count fun d =>
      { d with successfulTransactions := increment32 d.successfulTransactions }
    ((.ok,[]),t.finish .complete .success)
  else
    ((.ok,[]),{ t with
      deadline := now+t.config.responseTimeoutTicks
      state := .waitingResponse })

def onTxError (now : Word32) : TransactionStep :=
  if ¬ t.isInitialized then ((.errorNotInitialized,[]),t)
  else if t.state ≠ .transmitting then ((.errorState,[]),t)
  else ((.ok,[]),t.transportFailed now)

/-- A candidate that is counted as malformed; the transaction goes on waiting. -/
def noteMalformed : Transaction :=
  { t.count fun d => { d with malformedResponses := increment32 d.malformedResponses } with
    sawResponseError := 1 }

def judge (result : MasterResult) : Transaction :=
  match result with
  | .ok =>
    (t.count fun d => { d with
      successfulTransactions := increment32 d.successfulTransactions }).finish .complete .success
  | .exceptionResponse =>
    ({ t with exceptionCode := t.response.exceptionCode }.count fun d => { d with
      exceptionResponses := increment32 d.exceptionResponses }).finish .complete .modbusException
  | .errorAddressMismatch | .errorFunctionMismatch =>
    t.count fun d => { d with unrelatedResponses := increment32 d.unrelatedResponses }
  | _ => t.noteMalformed

def storeResponse (responseAdu : Mem Byte) (responseAduLength : Nat) : Transaction :=
  let t := { t with
    responseAdu := store t.responseAdu 0 (slice responseAdu 0 responseAduLength)
    responseAduLength := responseAduLength
    response := .cleared }
  let (result,response) := mbrtumProcessResponseWithRequestAdu t.request (some t.requestAdu)
    t.requestAduLength (some t.responseAdu) t.responseAduLength
  { t with response := response, protocolResult := result }

def onResponse (responseAdu : Option (Mem Byte)) (responseAduLength : Nat) (now : Word32) :
    TransactionStep :=
  match responseAdu with
  | none => ((.errorArgument,[]),t)
  | some responseAdu =>
    if ¬ t.isInitialized then ((.errorNotInitialized,[]),t)
    else if t.state ≠ .waitingResponse then ((.errorState,[]),t)
    else if deadlineReached now t.deadline then
      let t := t.count fun d => { d with lateResponses := increment32 d.lateResponses }
      ((.ok,[]),t.handleResponseTimeout now)
    else if responseAduLength = 0 ∨ 256 < responseAduLength then
      ((.ok,[]),{ t.noteMalformed with protocolResult := .errorResponseLength })
    else
      let t := t.storeResponse responseAdu responseAduLength
      ((.ok,[]),t.judge t.protocolResult)

def cancel : TransactionStep :=
  if ¬ t.isInitialized then ((.errorNotInitialized,[]),t)
  else if ¬ stateIsActive t.state then ((.errorState,[]),t)
  else
    let t := t.count fun d => { d with cancelledTransactions := increment32 d.cancelledTransactions }
    ((.ok,[]),t.finish .cancelled .cancelled)

def isActive : Bool := t.isInitialized && stateIsActive t.state

end Transaction

def Transaction.initialized (config : TransactionConfig) : Transaction where
  state := .idle
  result := .none
  protocolResult := .ok
  exceptionCode := 0
  config := config
  request := .cleared
  requestAdu := fun _ => 0
  requestAduLength := 0
  responseAdu := fun _ => 0
  responseAduLength := 0
  response := .cleared
  deadline := 0
  initializationCookie := initializationCookieValue
  retriesUsed := 0
  sawResponseError := 0
  diagnostics := ⟨0,0,0,0,0,0,0,0,0,0,0⟩

/-- `config` and `transmit` may be NULL. -/
def mbrtumTransactionInit (config : Option TransactionConfig) (transmit : Bool) :
    Except TransactionCode Transaction :=
  match config with
  | none => .error .errorArgument
  | some config =>
    if ¬ transmit then .error .errorArgument
    else if config.responseTimeoutTicks = 0#32 ∨ ¬ durationIsValid config.responseTimeoutTicks ∨
        ¬ durationIsValid config.retryDelayTicks ∨ 1 < config.retryTransportErrors.toNat then
      .error .errorConfig
    else .ok (.initialized config)

/-- A call of the interface. The last argument of `start` and `poll` is what the transport
answers if it is called. -/
inductive TransactionCall where
  | start (request : Option Request) (requestAdu : Option (Mem Byte)) (requestAduLength : Nat)
      (now : Word32) (transportResult : Int)
  | poll (now : Word32) (transportResult : Int)
  | onTxComplete (now : Word32)
  | onTxError (now : Word32)
  | onResponse (responseAdu : Option (Mem Byte)) (responseAduLength : Nat) (now : Word32)
  | cancel

def transactionStep (t : Transaction) : TransactionCall → TransactionStep
  | .start request adu length now answer => t.start request adu length now answer
  | .poll now answer => t.poll now answer
  | .onTxComplete now => t.onTxComplete now
  | .onTxError now => t.onTxError now
  | .onResponse adu length now => t.onResponse adu length now
  | .cancel => t.cancel

end ModbusStack
