import ModbusStack.Crc16

/-! The request builders of the serial master, `modbus_rtu_master.c`. -/
set_option autoImplicit false

namespace ModbusStack
open ByteMemory

inductive MasterResult where
  | ok | exceptionResponse
  | errorArgument | errorSlaveAddress | errorFunction | errorQuantity | errorValue
  | errorCapacity | errorResponseLength | errorCrc | errorAddressMismatch
  | errorFunctionMismatch | errorMalformedResponse | errorAcknowledgementMismatch
  | errorResponseNotExpected | errorIndex | errorRequestDataRequired
  deriving DecidableEq, Repr

/-- `mbrtum_request_t`. -/
structure Request where
  slaveAddress : Byte
  function : Byte
  startAddress : Word
  quantity : Word
  value : Word
  expectsResponse : Byte
  writeStartAddress : Word
  writeQuantity : Word
  deriving DecidableEq, Repr

def Request.cleared : Request := ⟨0,0,0,0,0,0,0,0⟩

/-- The output arguments of a builder: which of the three pointers are there, where the
ADU buffer lies (0 for NULL) and how much it holds. -/
structure RequestBuffer where
  hasRequest : Bool
  adu : Nat
  hasLength : Bool
  capacity : Nat
  deriving DecidableEq, Repr

def RequestBuffer.isNull (out : RequestBuffer) : Bool :=
  !out.hasRequest || out.adu = 0 || !out.hasLength

/-- What a builder leaves behind: its result, the descriptor, and the ADU bytes that the
reported length covers. -/
structure BuiltRequest where
  result : MasterResult
  request : Request
  adu : List Byte
  deriving DecidableEq, Repr

/-- Every error return: the length and the descriptor were cleared on entry. -/
def BuiltRequest.refuse (result : MasterResult) : BuiltRequest := ⟨result,.cleared,[]⟩

def unicastAddressIsValid (slaveAddress : Byte) : Bool :=
  1 ≤ slaveAddress.toNat ∧ slaveAddress.toNat ≤ 247

def writeAddressIsValid (slaveAddress : Byte) : Bool :=
  slaveAddress = 0#8 ∨ unicastAddressIsValid slaveAddress

def addressRangeIsValid (startAddress quantity : Word) : Bool :=
  0 < quantity.toNat ∧ startAddress.toNat+quantity.toNat ≤ 65536

def fileRecordRangeIsValid (recordNumber recordLength : Word) : Bool :=
  0 < recordLength.toNat ∧ recordNumber.toNat < 10000 ∧
    recordNumber.toNat+recordLength.toNat ≤ 10000

def deviceIdCodeIsValid (readDeviceIdCode : Word) : Bool :=
  1 ≤ readDeviceIdCode.toNat ∧ readDeviceIdCode.toNat ≤ 4

def meiTypeIsGeneric (meiType : Word) : Bool :=
  meiType.toNat ≤ 255 ∧ meiType ≠ 0x0D#16 ∧ meiType ≠ 0x0E#16

def diagnosticSubfunctionIsStateChanging (subfunction : Word) : Bool :=
  subfunction = 0x0001#16 ∨ subfunction = 0x0004#16 ∨ subfunction = 0x000A#16 ∨
    subfunction = 0x0014#16

def diagnosticSubfunctionIsSupported (subfunction : Word) : Bool :=
  match subfunction.toNat with
  | 0x00 | 0x01 | 0x02 | 0x04 | 0x0A | 0x0B | 0x0C | 0x0D | 0x0E | 0x0F | 0x10 | 0x11 | 0x12
  | 0x14 => true
  | _ => false

def finishRequest (slaveAddress function : Byte) (startAddress quantity value : Word) : Request where
  slaveAddress := slaveAddress
  function := function
  startAddress := startAddress
  quantity := quantity
  value := value
  expectsResponse := if slaveAddress = 0#8 then 0#8 else 1#8
  writeStartAddress := 0
  writeQuantity := 0

/-- The end of every builder: the capacity check, then the bytes, the CRC and the descriptor. -/
def emitRequest (out : RequestBuffer) (length : Nat) (adu : List Byte) (request : Request) :
    BuiltRequest :=
  if out.capacity < length then .refuse .errorCapacity else ⟨.ok,request,appendCrc adu⟩

def buildFixedRequest (slaveAddress function : Byte) (first second requestQuantity
    requestValue : Word) (out : RequestBuffer) : BuiltRequest :=
  if out.isNull then .refuse .errorArgument
  else emitRequest out 8 ([slaveAddress,function] ++ writeBe16 first ++ writeBe16 second)
    (finishRequest slaveAddress function first requestQuantity requestValue)

/-- FC01 to FC04: a read of `1 ≤ quantity ≤ limit` consecutive elements. -/
def buildReadRequest (functions : List Byte) (limit : Nat) (slaveAddress function : Byte)
    (startAddress quantity : Word) (out : RequestBuffer) : BuiltRequest :=
  if out.isNull then .refuse .errorArgument
  else if ¬ unicastAddressIsValid slaveAddress then .refuse .errorSlaveAddress
  else if function ∉ functions then .refuse .errorFunction
  else if quantity = 0#16 ∨ limit < quantity.toNat ∨
      ¬ addressRangeIsValid startAddress quantity then .refuse .errorQuantity
  else buildFixedRequest slaveAddress function startAddress quantity quantity 0#16 out

def buildReadBitsRequest : Byte → Byte → Word → Word → RequestBuffer → BuiltRequest :=
  buildReadRequest [0x01#8,0x02#8] 2000

def buildReadRegistersRequest : Byte → Byte → Word → Word → RequestBuffer → BuiltRequest :=
  buildReadRequest [0x03#8,0x04#8] 125

def buildWriteSingleCoilRequest (slaveAddress : Byte) (address : Word) (value : Byte)
    (out : RequestBuffer) : BuiltRequest :=
  if out.isNull then .refuse .errorArgument
  else if ¬ writeAddressIsValid slaveAddress then .refuse .errorSlaveAddress
  else if 1 < value.toNat then .refuse .errorValue
  else
    let encodedValue : Word := if value = 0#8 then 0x0000#16 else 0xFF00#16
    buildFixedRequest slaveAddress 0x05#8 address encodedValue 1#16 encodedValue out

def buildWriteSingleRegisterRequest (slaveAddress : Byte) (address value : Word)
    (out : RequestBuffer) : BuiltRequest :=
  if out.isNull then .refuse .errorArgument
  else if ¬ writeAddressIsValid slaveAddress then .refuse .errorSlaveAddress
  else buildFixedRequest slaveAddress 0x06#8 address value 1#16 value out

def buildMaskWriteRegisterRequest (slaveAddress : Byte) (address andMask orMask : Word)
    (out : RequestBuffer) : BuiltRequest :=
  if out.isNull then .refuse .errorArgument
  else if ¬ writeAddressIsValid slaveAddress then .refuse .errorSlaveAddress
  else emitRequest out 10 ([slaveAddress,0x16#8] ++ writeBe16 address ++ writeBe16 andMask ++
      writeBe16 orMask)
    (finishRequest slaveAddress 0x16#8 address andMask orMask)

/-- The copied coil bytes, with the unused high bits of the last one cleared. -/
def clearPadding (packedValues : Mem Byte) (quantity : Nat) : Mem Byte :=
  let byteCount := (quantity+7)/8
  let remainder := quantity%8
  if remainder ≠ 0 then
    put packedValues (byteCount-1) (packedValues (byteCount-1) &&& ((1#8 <<< remainder)-1#8))
  else packedValues

def buildWriteMultipleCoilsRequest (slaveAddress : Byte) (startAddress quantity : Word)
    (packedValues : Option (Mem Byte)) (out : RequestBuffer) : BuiltRequest :=
  match packedValues with
  | none => .refuse .errorArgument
  | some packedValues =>
    if out.isNull then .refuse .errorArgument
    else if ¬ writeAddressIsValid slaveAddress then .refuse .errorSlaveAddress
    else if quantity = 0#16 ∨ 1968 < quantity.toNat ∨
        ¬ addressRangeIsValid startAddress quantity then .refuse .errorQuantity
    else
      let byteCount := (quantity.toNat+7)/8
      emitRequest out (7+byteCount+2) ([slaveAddress,0x0F#8] ++ writeBe16 startAddress ++
          writeBe16 quantity ++ [BitVec.ofNat 8 byteCount] ++
          slice (clearPadding packedValues quantity.toNat) 0 byteCount)
        (finishRequest slaveAddress 0x0F#8 startAddress quantity 0#16)

def buildWriteMultipleRegistersRequest (slaveAddress : Byte) (startAddress quantity : Word)
    (values : Option (Mem Word)) (out : RequestBuffer) : BuiltRequest :=
  match values with
  | none => .refuse .errorArgument
  | some values =>
    if out.isNull then .refuse .errorArgument
    else if ¬ writeAddressIsValid slaveAddress then .refuse .errorSlaveAddress
    else if quantity = 0#16 ∨ 123 < quantity.toNat ∨
        ¬ addressRangeIsValid startAddress quantity then .refuse .errorQuantity
    else
      let byteCount := quantity.toNat*2
      emitRequest out (7+byteCount+2) ([slaveAddress,0x10#8] ++ writeBe16 startAddress ++
          writeBe16 quantity ++ [BitVec.ofNat 8 byteCount] ++
          encodeWords (slice values 0 quantity.toNat))
        (finishRequest slaveAddress 0x10#8 startAddress quantity 0#16)

def buildReadWriteMultipleRegistersRequest (slaveAddress : Byte) (readStartAddress readQuantity
    writeStartAddress writeQuantity : Word) (writeValues : Option (Mem Word))
    (out : RequestBuffer) : BuiltRequest :=
  match writeValues with
  | none => .refuse .errorArgument
  | some writeValues =>
    if out.isNull then .refuse .errorArgument
    else if ¬ unicastAddressIsValid slaveAddress then .refuse .errorSlaveAddress
    else if readQuantity = 0#16 ∨ 125 < readQuantity.toNat ∨
        ¬ addressRangeIsValid readStartAddress readQuantity ∨
        writeQuantity = 0#16 ∨ 121 < writeQuantity.toNat ∨
        ¬ addressRangeIsValid writeStartAddress writeQuantity then .refuse .errorQuantity
    else
      let byteCount := writeQuantity.toNat*2
      emitRequest out (11+byteCount+2) ([slaveAddress,0x17#8] ++ writeBe16 readStartAddress ++
          writeBe16 readQuantity ++ writeBe16 writeStartAddress ++ writeBe16 writeQuantity ++
          [BitVec.ofNat 8 byteCount] ++ encodeWords (slice writeValues 0 writeQuantity.toNat))
        { finishRequest slaveAddress 0x17#8 readStartAddress readQuantity 0#16 with
          writeStartAddress := writeStartAddress
          writeQuantity := writeQuantity }

structure FileRecordRequest where
  fileNumber : Word
  recordNumber : Word
  recordLength : Word
  deriving DecidableEq, Repr

def FileRecordRequest.encode (r : FileRecordRequest) : List Byte :=
  [0x06#8] ++ writeBe16 r.fileNumber ++ writeBe16 r.recordNumber ++ writeBe16 r.recordLength

/-- The check loop of the FC20 builder, with the response length summed so far. -/
def checkReadSubrequests : List FileRecordRequest → Nat → Except MasterResult Nat
  | [], responseDataLength => .ok responseDataLength
  | r :: rest, responseDataLength =>
    if r.fileNumber = 0#16 ∨ ¬ fileRecordRangeIsValid r.recordNumber r.recordLength then
      .error .errorValue
    else if 245-responseDataLength < 2+r.recordLength.toNat*2 then .error .errorQuantity
    else checkReadSubrequests rest (responseDataLength+(2+r.recordLength.toNat*2))

def buildReadFileRecordRequest (slaveAddress : Byte) (subrequests : Option (Mem FileRecordRequest))
    (subrequestCount : Nat) (out : RequestBuffer) : BuiltRequest :=
  match subrequests with
  | none => .refuse .errorArgument
  | some subrequests =>
    if out.isNull then .refuse .errorArgument
    else if ¬ unicastAddressIsValid slaveAddress then .refuse .errorSlaveAddress
    else if subrequestCount = 0 ∨ 35 < subrequestCount then .refuse .errorQuantity
    else
      let requestDataLength := subrequestCount*7
      if 245 < requestDataLength then .refuse .errorQuantity
      else
        match checkReadSubrequests (slice subrequests 0 subrequestCount) 0 with
        | .error e => .refuse e
        | .ok responseDataLength =>
          emitRequest out (3+requestDataLength+2)
            ([slaveAddress,0x14#8,BitVec.ofNat 8 requestDataLength] ++
              (slice subrequests 0 subrequestCount).flatMap FileRecordRequest.encode)
            (finishRequest slaveAddress 0x14#8 (BitVec.ofNat 16 requestDataLength)
              (BitVec.ofNat 16 responseDataLength) (BitVec.ofNat 16 subrequestCount))

structure WriteFileRecordRequest where
  fileNumber : Word
  recordNumber : Word
  recordLength : Word
  recordData : Option (Mem Word)

def WriteFileRecordRequest.head (r : WriteFileRecordRequest) : FileRecordRequest :=
  ⟨r.fileNumber,r.recordNumber,r.recordLength⟩

/-- The words behind `record_data`; the check loop has excluded NULL. -/
def WriteFileRecordRequest.words (r : WriteFileRecordRequest) : List Word :=
  match r.recordData with
  | some recordData => slice recordData 0 r.recordLength.toNat
  | none => []

def WriteFileRecordRequest.encode (r : WriteFileRecordRequest) : List Byte :=
  r.head.encode ++ encodeWords r.words

/-- The check loop of the FC21 builder, with the request length summed so far. -/
def checkWriteSubrequests : List WriteFileRecordRequest → Nat → Except MasterResult Nat
  | [], requestDataLength => .ok requestDataLength
  | r :: rest, requestDataLength =>
    if r.fileNumber = 0#16 ∨ r.recordData.isNone ∨
        ¬ fileRecordRangeIsValid r.recordNumber r.recordLength then .error .errorValue
    else if 251-requestDataLength < 7+r.recordLength.toNat*2 then .error .errorQuantity
    else checkWriteSubrequests rest (requestDataLength+(7+r.recordLength.toNat*2))

def buildWriteFileRecordRequest (slaveAddress : Byte)
    (subrequests : Option (Mem WriteFileRecordRequest)) (subrequestCount : Nat)
    (out : RequestBuffer) : BuiltRequest :=
  match subrequests with
  | none => .refuse .errorArgument
  | some subrequests =>
    if out.isNull then .refuse .errorArgument
    else if ¬ writeAddressIsValid slaveAddress then .refuse .errorSlaveAddress
    else if subrequestCount = 0 ∨ 27 < subrequestCount then .refuse .errorQuantity
    else
      match checkWriteSubrequests (slice subrequests 0 subrequestCount) 0 with
      | .error e => .refuse e
      | .ok requestDataLength =>
        emitRequest out (3+requestDataLength+2)
          ([slaveAddress,0x15#8,BitVec.ofNat 8 requestDataLength] ++
            (slice subrequests 0 subrequestCount).flatMap WriteFileRecordRequest.encode)
          (finishRequest slaveAddress 0x15#8 (BitVec.ofNat 16 requestDataLength)
            (BitVec.ofNat 16 subrequestCount) 0#16)

def buildReadFifoQueueRequest (slaveAddress : Byte) (fifoPointerAddress : Word)
    (out : RequestBuffer) : BuiltRequest :=
  if out.isNull then .refuse .errorArgument
  else if ¬ unicastAddressIsValid slaveAddress then .refuse .errorSlaveAddress
  else emitRequest out 6 ([slaveAddress,0x18#8] ++ writeBe16 fifoPointerAddress)
    (finishRequest slaveAddress 0x18#8 fifoPointerAddress 0#16 0#16)

structure DataBuffer where
  address : Nat
  bytes : Mem Byte

def rangesOverlap (aduBegin aduLength dataBegin dataLength : Nat) : Bool :=
  dataBegin < aduBegin+aduLength ∧ aduBegin < dataBegin+dataLength

/-- The bytes of an optional buffer: `memcpy` is skipped when the length is zero. -/
def DataBuffer.read (data : Option DataBuffer) (length : Nat) : List Byte :=
  match data with
  | some d => slice d.bytes 0 length
  | none => []

def buildMeiRequest (slaveAddress meiType : Byte) (meiData : Option DataBuffer)
    (meiDataLength : Nat) (out : RequestBuffer) : BuiltRequest :=
  if out.isNull then .refuse .errorArgument
  else if ¬ unicastAddressIsValid slaveAddress then .refuse .errorSlaveAddress
  else if ¬ meiTypeIsGeneric (meiType.setWidth 16) then .refuse .errorFunction
  else if 251 < meiDataLength ∨ (meiDataLength ≠ 0 ∧ meiData.isNone) then .refuse .errorValue
  else if out.capacity < 3+meiDataLength+2 then .refuse .errorCapacity
  else if meiDataLength ≠ 0 ∧ meiData.any fun d =>
      rangesOverlap out.adu (3+meiDataLength+2) d.address meiDataLength then
    .refuse .errorArgument
  else emitRequest out (3+meiDataLength+2)
    ([slaveAddress,0x2B#8,meiType] ++ DataBuffer.read meiData meiDataLength)
    (finishRequest slaveAddress 0x2B#8 (BitVec.ofNat 16 meiDataLength) 0#16 (meiType.setWidth 16))

def buildReadDeviceIdentificationRequest (slaveAddress readDeviceIdCode objectId : Byte)
    (out : RequestBuffer) : BuiltRequest :=
  if out.isNull then .refuse .errorArgument
  else if ¬ unicastAddressIsValid slaveAddress then .refuse .errorSlaveAddress
  else if ¬ deviceIdCodeIsValid (readDeviceIdCode.setWidth 16) then .refuse .errorValue
  else emitRequest out 7 [slaveAddress,0x2B#8,0x0E#8,readDeviceIdCode,objectId]
    (finishRequest slaveAddress 0x2B#8 (readDeviceIdCode.setWidth 16) (objectId.setWidth 16)
      0x0E#16)

def buildFunctionOnlyRequest (slaveAddress function : Byte) (out : RequestBuffer) : BuiltRequest :=
  if out.isNull then .refuse .errorArgument
  else if ¬ unicastAddressIsValid slaveAddress then .refuse .errorSlaveAddress
  else emitRequest out 4 [slaveAddress,function]
    (finishRequest slaveAddress function 0#16 0#16 0#16)

def buildReadExceptionStatusRequest (slaveAddress : Byte) (out : RequestBuffer) : BuiltRequest :=
  buildFunctionOnlyRequest slaveAddress 0x07#8 out

def buildGetCommEventCounterRequest (slaveAddress : Byte) (out : RequestBuffer) : BuiltRequest :=
  buildFunctionOnlyRequest slaveAddress 0x0B#8 out

def buildGetCommEventLogRequest (slaveAddress : Byte) (out : RequestBuffer) : BuiltRequest :=
  buildFunctionOnlyRequest slaveAddress 0x0C#8 out

/-- FC11; the length check comes before the pointers are looked at. -/
def buildReportServerIdRequest (slaveAddress : Byte) (expectedServerIdLength : Word)
    (out : RequestBuffer) : BuiltRequest :=
  if expectedServerIdLength = 0#16 ∨ 250 < expectedServerIdLength.toNat then
    .refuse .errorQuantity
  else
    let built := buildFunctionOnlyRequest slaveAddress 0x11#8 out
    if built.result = .ok then
      { built with request := { built.request with quantity := expectedServerIdLength } }
    else built

def diagnosticDataIsValid (subfunction dataWord : Word) : Bool :=
  if subfunction = 0x0001#16 then dataWord = 0x0000#16 ∨ dataWord = 0xFF00#16
  else dataWord = 0#16

def buildDiagnosticsRequest (slaveAddress : Byte) (subfunction : Word)
    (diagnosticData : Option (Mem Byte)) (diagnosticDataLength : Nat) (out : RequestBuffer) :
    BuiltRequest :=
  let data := diagnosticData.getD fun _ => 0
  if out.isNull then .refuse .errorArgument
  else if ¬ diagnosticSubfunctionIsSupported subfunction then .refuse .errorFunction
  else if 250 < diagnosticDataLength ∨ diagnosticDataLength%2 ≠ 0 ∨
      (diagnosticDataLength ≠ 0 ∧ diagnosticData.isNone) then .refuse .errorValue
  else if slaveAddress = 0#8 ∧ ¬ diagnosticSubfunctionIsStateChanging subfunction then
    .refuse .errorSlaveAddress
  else if slaveAddress ≠ 0#8 ∧ ¬ unicastAddressIsValid slaveAddress then
    .refuse .errorSlaveAddress
  else if subfunction ≠ 0x0000#16 ∧ (diagnosticDataLength ≠ 2 ∨
      ¬ diagnosticDataIsValid subfunction (readBe16 data)) then .refuse .errorValue
  else emitRequest out (4+diagnosticDataLength+2)
    ([slaveAddress,0x08#8] ++ writeBe16 subfunction ++ slice data 0 diagnosticDataLength)
    { finishRequest slaveAddress 0x08#8 subfunction (BitVec.ofNat 16 diagnosticDataLength) 0#16 with
      expectsResponse := if slaveAddress ≠ 0#8 ∧ subfunction ≠ 0x0004#16 then 1#8 else 0#8 }

inductive BuildCall where
  | readBits (slaveAddress function : Byte) (startAddress quantity : Word)
  | readRegisters (slaveAddress function : Byte) (startAddress quantity : Word)
  | writeSingleCoil (slaveAddress : Byte) (address : Word) (value : Byte)
  | writeSingleRegister (slaveAddress : Byte) (address value : Word)
  | maskWriteRegister (slaveAddress : Byte) (address andMask orMask : Word)
  | writeMultipleCoils (slaveAddress : Byte) (startAddress quantity : Word)
      (packedValues : Option (Mem Byte))
  | writeMultipleRegisters (slaveAddress : Byte) (startAddress quantity : Word)
      (values : Option (Mem Word))
  | readWriteMultipleRegisters (slaveAddress : Byte) (readStartAddress readQuantity
      writeStartAddress writeQuantity : Word) (writeValues : Option (Mem Word))
  | readFileRecord (slaveAddress : Byte) (subrequests : Option (Mem FileRecordRequest))
      (subrequestCount : Nat)
  | writeFileRecord (slaveAddress : Byte) (subrequests : Option (Mem WriteFileRecordRequest))
      (subrequestCount : Nat)
  | readFifoQueue (slaveAddress : Byte) (fifoPointerAddress : Word)
  | mei (slaveAddress meiType : Byte) (meiData : Option DataBuffer) (meiDataLength : Nat)
  | readDeviceIdentification (slaveAddress readDeviceIdCode objectId : Byte)
  | readExceptionStatus (slaveAddress : Byte)
  | getCommEventCounter (slaveAddress : Byte)
  | getCommEventLog (slaveAddress : Byte)
  | reportServerId (slaveAddress : Byte) (expectedServerIdLength : Word)
  | diagnostics (slaveAddress : Byte) (subfunction : Word) (diagnosticData : Option (Mem Byte))
      (diagnosticDataLength : Nat)

def BuildCall.build (out : RequestBuffer) : BuildCall → BuiltRequest
  | .readBits a f start quantity => buildReadBitsRequest a f start quantity out
  | .readRegisters a f start quantity => buildReadRegistersRequest a f start quantity out
  | .writeSingleCoil a address value => buildWriteSingleCoilRequest a address value out
  | .writeSingleRegister a address value => buildWriteSingleRegisterRequest a address value out
  | .maskWriteRegister a address andMask orMask =>
    buildMaskWriteRegisterRequest a address andMask orMask out
  | .writeMultipleCoils a start quantity values =>
    buildWriteMultipleCoilsRequest a start quantity values out
  | .writeMultipleRegisters a start quantity values =>
    buildWriteMultipleRegistersRequest a start quantity values out
  | .readWriteMultipleRegisters a rstart rquantity wstart wquantity values =>
    buildReadWriteMultipleRegistersRequest a rstart rquantity wstart wquantity values out
  | .readFileRecord a subrequests count => buildReadFileRecordRequest a subrequests count out
  | .writeFileRecord a subrequests count => buildWriteFileRecordRequest a subrequests count out
  | .readFifoQueue a pointer => buildReadFifoQueueRequest a pointer out
  | .mei a meiType data length => buildMeiRequest a meiType data length out
  | .readDeviceIdentification a code objectId =>
    buildReadDeviceIdentificationRequest a code objectId out
  | .readExceptionStatus a => buildReadExceptionStatusRequest a out
  | .getCommEventCounter a => buildGetCommEventCounterRequest a out
  | .getCommEventLog a => buildGetCommEventLogRequest a out
  | .reportServerId a expected => buildReportServerIdRequest a expected out
  | .diagnostics a subfunction data length => buildDiagnosticsRequest a subfunction data length out

end ModbusStack
