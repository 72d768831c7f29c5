import ModbusStack.FileRecord
import ModbusStack.MasterRequest

/-! `mbrtum_process_response_with_request_adu`: the descriptor check, the check of the
original request, and the validation of a response frame against both. -/
set_option autoImplicit false

namespace ModbusStack
open ByteMemory

/-- `mbrtum_response_t`; `data` is the offset of the data pointer in the response ADU. -/
structure Response where
  function : Byte
  exceptionCode : Byte
  data : Option Nat
  dataLength : Nat
  deriving DecidableEq, Repr

def Response.cleared : Response := ⟨0,0,none,0⟩

def Response.bytes (r : Response) (adu : Mem Byte) : Mem Byte := adu.off (r.data.getD 0)

def deviceIdConformityIsValid (conformityLevel : Byte) : Bool :=
  conformityLevel ∈ [0x01#8,0x02#8,0x03#8,0x81#8,0x82#8,0x83#8]

def deviceIdConformityCategory (conformityLevel : Byte) : Byte := conformityLevel &&& 0x7F#8

def deviceIdObjectMatchesCategory (objectId category : Byte) : Bool :=
  if category = 0x01#8 then objectId.toNat ≤ 0x02
  else if category = 0x02#8 then objectId.toNat ≤ 0x06
  else category = 0x03#8 ∧ (objectId.toNat ≤ 0x06 ∨ 0x80 ≤ objectId.toNat)

def packedBitPaddingIsZero (data : Mem Byte) (dataLength : Nat) (quantity : Word) : Bool :=
  let remainder := quantity.toNat%8
  if remainder = 0 then true
  else if dataLength = 0 then false
  else data (dataLength-1) &&& ~~~((1#8 <<< remainder)-1#8) = 0#8

def quantityIsBad (limit : Nat) (startAddress quantity : Word) : Bool :=
  quantity = 0#16 ∨ limit < quantity.toNat ∨ ¬ addressRangeIsValid startAddress quantity

/-- The switch of `validate_request_descriptor`. -/
def validateFunctionFields (request : Request) : MasterResult :=
  match request.function.toNat with
  | 0x01 | 0x02 =>
    if quantityIsBad 2000 request.startAddress request.quantity then .errorQuantity else .ok
  | 0x03 | 0x04 =>
    if quantityIsBad 125 request.startAddress request.quantity then .errorQuantity else .ok
  | 0x05 =>
    if request.quantity ≠ 1#16 ∨ (request.value ≠ 0x0000#16 ∧ request.value ≠ 0xFF00#16) then
      .errorValue
    else .ok
  | 0x06 => if request.quantity ≠ 1#16 then .errorQuantity else .ok
  | 0x0F =>
    if quantityIsBad 1968 request.startAddress request.quantity then .errorQuantity else .ok
  | 0x10 =>
    if quantityIsBad 123 request.startAddress request.quantity then .errorQuantity else .ok
  | 0x16 =>
    if request.writeStartAddress ≠ 0#16 ∨ request.writeQuantity ≠ 0#16 then .errorValue else .ok
  | 0x14 =>
    if request.startAddress.toNat < 7 ∨ 245 < request.startAddress.toNat ∨
        request.startAddress.toNat%7 ≠ 0 ∨ request.quantity.toNat < 4 ∨
        245 < request.quantity.toNat ∨ request.quantity.toNat%2 ≠ 0 ∨ request.value = 0#16 ∨
        35 < request.value.toNat ∨ request.value.toNat ≠ request.startAddress.toNat/7 ∨
        request.writeStartAddress ≠ 0#16 ∨ request.writeQuantity ≠ 0#16 then .errorValue
    else .ok
  | 0x15 =>
    if request.startAddress.toNat < 9 ∨ 251 < request.startAddress.toNat ∨
        request.quantity = 0#16 ∨ 27 < request.quantity.toNat ∨ request.value ≠ 0#16 ∨
        request.writeStartAddress ≠ 0#16 ∨ request.writeQuantity ≠ 0#16 then .errorValue
    else .ok
  | 0x17 =>
    if request.quantity = 0#16 ∨ 125 < request.quantity.toNat ∨
        ¬ addressRangeIsValid request.startAddress request.quantity ∨
        request.writeQuantity = 0#16 ∨ 121 < request.writeQuantity.toNat ∨
        ¬ addressRangeIsValid request.writeStartAddress request.writeQuantity ∨
        request.value ≠ 0#16 then .errorQuantity
    else .ok
  | 0x07 | 0x0B | 0x0C =>
    if request.startAddress ≠ 0#16 ∨ request.quantity ≠ 0#16 ∨ request.value ≠ 0#16 then
      .errorValue
    else .ok
  | 0x11 =>
    if request.startAddress ≠ 0#16 ∨ request.quantity = 0#16 ∨ 250 < request.quantity.toNat ∨
        request.value ≠ 0#16 ∨ request.writeStartAddress ≠ 0#16 ∨
        request.writeQuantity ≠ 0#16 then .errorValue
    else .ok
  | 0x18 =>
    if request.quantity ≠ 0#16 ∨ request.value ≠ 0#16 ∨ request.writeStartAddress ≠ 0#16 ∨
        request.writeQuantity ≠ 0#16 then .errorValue
    else .ok
  | 0x2B =>
    if request.value = 0x0E#16 then
      if ¬ deviceIdCodeIsValid request.startAddress ∨ 255 < request.quantity.toNat ∨
          request.writeStartAddress ≠ 0#16 ∨ request.writeQuantity ≠ 0#16 then .errorValue
      else .ok
    else if ¬ meiTypeIsGeneric request.value ∨ 251 < request.startAddress.toNat ∨
        request.quantity ≠ 0#16 ∨ request.writeStartAddress ≠ 0#16 ∨
        request.writeQuantity ≠ 0#16 then .errorValue
    else .ok
  | 0x08 =>
    if ¬ diagnosticSubfunctionIsSupported request.startAddress ∨ 250 < request.quantity.toNat ∨
        request.quantity.toNat%2 ≠ 0 ∨ request.value ≠ 0#16 then .errorValue
    else if request.startAddress = 0x0000#16 then .ok
    else if request.quantity ≠ 2#16 then .errorValue
    else .ok
  | _ => .errorFunction

def validateRequestDescriptor (request : Request) : MasterResult :=
  if request.expectsResponse = 0#8 then .errorResponseNotExpected
  else if request.expectsResponse ≠ 1#8 then .errorArgument
  else if ¬ unicastAddressIsValid request.slaveAddress then .errorSlaveAddress
  else validateFunctionFields request

/-- The walk over FC21 sub-requests up to `dataEnd`: the final offset and their number. -/
def scanWriteSubrequests (adu : Mem Byte) (dataEnd : Nat) :
    (fuel offset count : Nat) → Option (Nat × Nat)
  | 0, offset, count => some (offset,count)
  | fuel+1, offset, count =>
    if offset < dataEnd then
      let r := readSubrequest adu offset
      if dataEnd-offset < 7 ∨ r.referenceType ≠ 0x06#8 then none
      else if r.fileNumber = 0#16 ∨ ¬ fileRecordRangeIsValid r.recordNumber r.recordLength then none
      else if dataEnd-offset < 7+r.recordLength.toNat*2 then none
      else scanWriteSubrequests adu dataEnd fuel (offset+(7+r.recordLength.toNat*2)) (count+1)
    else some (offset,count)

/-- The walk over FC20 sub-requests: the summed response length and their number. -/
def scanReadSubrequests (adu : Mem Byte) (dataEnd : Nat) :
    (fuel offset responseDataLength count : Nat) → Option (Nat × Nat)
  | 0, _, responseDataLength, count => some (responseDataLength,count)
  | fuel+1, offset, responseDataLength, count =>
    if offset < dataEnd then
      let r := readSubrequest adu offset
      if r.referenceType ≠ 0x06#8 then none
      else if r.fileNumber = 0#16 ∨ ¬ fileRecordRangeIsValid r.recordNumber r.recordLength then none
      else if 245-responseDataLength < 2+r.recordLength.toNat*2 then none
      else scanReadSubrequests adu dataEnd fuel (offset+7)
        (responseDataLength+(2+r.recordLength.toNat*2)) (count+1)
    else some (responseDataLength,count)

def originalRequestAduIsValid (request : Request) (requestAdu : Option (Mem Byte))
    (requestAduLength : Nat) : Bool :=
  match requestAdu with
  | none => false
  | some adu =>
    if requestAduLength < 4 ∨ 256 < requestAduLength ∨ mbCrc16 adu requestAduLength ≠ 0#16 ∨
        adu 0 ≠ request.slaveAddress ∨ adu 1 ≠ request.function then false
    else if request.function = 0x15#8 then
      if requestAduLength ≠ 5+request.startAddress.toNat ∨
          adu 2 ≠ loByte request.startAddress then false
      else
        let dataEnd := requestAduLength-2
        match scanWriteSubrequests adu dataEnd dataEnd 3 0 with
        | none => false
        | some (offset,count) => offset = dataEnd ∧ count = request.quantity.toNat
    else if request.function = 0x14#8 then
      if requestAduLength ≠ 5+request.startAddress.toNat ∨
          adu 2 ≠ loByte request.startAddress then false
      else
        match scanReadSubrequests adu (requestAduLength-2) requestAduLength 3 0 0 with
        | none => false
        | some (responseDataLength,_) => responseDataLength = request.quantity.toNat
    else if request.function = 0x2B#8 then
      if request.value = 0x0E#16 then
        requestAduLength = 7 ∧ adu 2 = 0x0E#8 ∧ adu 3 = loByte request.startAddress ∧
          adu 4 = loByte request.quantity
      else requestAduLength = 5+request.startAddress.toNat ∧ adu 2 = loByte request.value
    else if request.function = 0x08#8 then
      if requestAduLength ≠ 6+request.quantity.toNat ∨
          readBe16 (adu.off 2) ≠ request.startAddress then false
      else if request.startAddress = 0x0000#16 then true
      else diagnosticDataIsValid request.startAddress (readBe16 (adu.off 4))
    else true

def reject (result : MasterResult) : MasterResult × Response := (result,.cleared)

def accept (request : Request) (data : Option Nat) (dataLength : Nat) : MasterResult × Response :=
  (.ok,⟨request.function,0,data,dataLength⟩)

section Functions
variable (request : Request) (requestAdu : Mem Byte) (requestAduLength : Nat)
variable (adu : Mem Byte) (length : Nat)

def checkReadBits : MasterResult × Response :=
  let expectedByteCount := (request.quantity.toNat+7)/8
  if length ≠ 5+expectedByteCount then reject .errorResponseLength
  else if (adu 2).toNat ≠ expectedByteCount then reject .errorMalformedResponse
  else if ¬ packedBitPaddingIsZero (adu.off 3) expectedByteCount request.quantity then
    reject .errorMalformedResponse
  else accept request (some 3) expectedByteCount

def checkReadRegisters : MasterResult × Response :=
  let expectedByteCount := request.quantity.toNat*2
  if length ≠ 5+expectedByteCount then reject .errorResponseLength
  else if (adu 2).toNat ≠ expectedByteCount then reject .errorMalformedResponse
  else accept request (some 3) expectedByteCount

/-- The walk of FC20 over sub-requests and sub-responses side by side. -/
def matchSubresponses : (n requestOffset responseOffset : Nat) → Except MasterResult (Nat × Nat)
  | 0, requestOffset, responseOffset => .ok (requestOffset,responseOffset)
  | n+1, requestOffset, responseOffset =>
    if requestAduLength-2 < requestOffset+7 ∨ length-2 < responseOffset+2 then
      .error .errorResponseLength
    else
      let recordLength := readBe16 (requestAdu.off (requestOffset+5))
      let expectedFileResponseLength := 1+recordLength.toNat*2
      if (adu responseOffset).toNat ≠ expectedFileResponseLength ∨
          adu (responseOffset+1) ≠ 0x06#8 then .error .errorMalformedResponse
      else if length-2 < responseOffset+(1+expectedFileResponseLength) then
        .error .errorResponseLength
      else matchSubresponses n (requestOffset+7) (responseOffset+(1+expectedFileResponseLength))

def checkReadFileRecord : MasterResult × Response :=
  if length ≠ 5+request.quantity.toNat then reject .errorResponseLength
  else if adu 2 ≠ loByte request.quantity then reject .errorMalformedResponse
  else
    match matchSubresponses requestAdu requestAduLength adu length request.value.toNat 3 3 with
    | .error e => reject e
    | .ok (requestOffset,responseOffset) =>
      if requestOffset ≠ requestAduLength-2 ∨ responseOffset ≠ length-2 then
        reject .errorResponseLength
      else accept request (some 3) request.quantity.toNat

def checkWriteFileRecord : MasterResult × Response :=
  if length ≠ requestAduLength then reject .errorResponseLength
  else if slice adu 0 requestAduLength ≠ slice requestAdu 0 requestAduLength then
    reject .errorAcknowledgementMismatch
  else accept request none 0

/-- FC05, FC06, FC0F and FC10: the address and one more word are echoed. -/
def checkWriteAck (echo : Word) : MasterResult × Response :=
  if length ≠ 8 then reject .errorResponseLength
  else if readBe16 (adu.off 2) ≠ request.startAddress ∨ readBe16 (adu.off 4) ≠ echo then
    reject .errorAcknowledgementMismatch
  else accept request none 0

def checkMaskWriteAck : MasterResult × Response :=
  if length ≠ 10 then reject .errorResponseLength
  else if readBe16 (adu.off 2) ≠ request.startAddress ∨
      readBe16 (adu.off 4) ≠ request.quantity ∨ readBe16 (adu.off 6) ≠ request.value then
    reject .errorAcknowledgementMismatch
  else accept request none 0

def checkExceptionStatus : MasterResult × Response :=
  if length ≠ 5 then reject .errorResponseLength else accept request (some 2) 1

def diagnosticSubfunctionReturnsValue (subfunction : Word) : Bool :=
  subfunction ∈ [0x02#16,0x0B#16,0x0C#16,0x0D#16,0x0E#16,0x0F#16,0x10#16,0x11#16,0x12#16]

def checkDiagnostics : MasterResult × Response :=
  if length < 6 ∨ (length-6)%2 ≠ 0 then reject .errorResponseLength
  else if readBe16 (adu.off 2) ≠ request.startAddress then reject .errorAcknowledgementMismatch
  else if request.startAddress = 0x0000#16 then
    if length ≠ requestAduLength ∨
        slice adu 0 requestAduLength ≠ slice requestAdu 0 requestAduLength then
      reject .errorAcknowledgementMismatch
    else accept request (some 2) (length-4)
  else if length ≠ 8 then reject .errorResponseLength
  else if ¬ diagnosticSubfunctionReturnsValue request.startAddress ∧
      slice adu 4 2 ≠ slice requestAdu 4 2 then reject .errorAcknowledgementMismatch
  else accept request (some 2) (length-4)

def checkCommEventCounter : MasterResult × Response :=
  if length ≠ 8 then reject .errorResponseLength else accept request (some 2) 4

def checkCommEventLog : MasterResult × Response :=
  if length < 11 then reject .errorResponseLength
  else if (adu 2).toNat < 6 ∨ 70 < (adu 2).toNat then reject .errorMalformedResponse
  else if length ≠ 5+(adu 2).toNat then reject .errorResponseLength
  else accept request (some 3) (adu 2).toNat

def checkServerId : MasterResult × Response :=
  if length < 6+request.quantity.toNat then reject .errorResponseLength
  else if (adu 2).toNat < request.quantity.toNat+1 ∨ 251 < (adu 2).toNat then
    reject .errorMalformedResponse
  else if length ≠ 5+(adu 2).toNat then reject .errorResponseLength
  else if adu (3+request.quantity.toNat) ≠ 0x00#8 ∧ adu (3+request.quantity.toNat) ≠ 0xFF#8 then
    reject .errorMalformedResponse
  else accept request (some 3) (adu 2).toNat

def checkFifoQueue : MasterResult × Response :=
  if length < 8 then reject .errorResponseLength
  else
    let byteCount := (readBe16 (adu.off 2)).toNat
    let fifoCount := readBe16 (adu.off 4)
    if 31 < fifoCount.toNat then reject .errorMalformedResponse
    else if byteCount ≠ 2+fifoCount.toNat*2 ∨ 64 < byteCount then reject .errorMalformedResponse
    else if length ≠ 6+byteCount then reject .errorResponseLength
    else accept request (some 4) byteCount

def checkMei : MasterResult × Response :=
  if length < 5 then reject .errorResponseLength
  else if adu 2 ≠ loByte request.value then reject .errorAcknowledgementMismatch
  else if 256 < length then reject .errorResponseLength
  else accept request (some 2) (length-4)

/-- The object loop of FC43/14 from object `i` on: the final offset and the last object. -/
def checkObjects (readCode category : Byte) :
    (n i offset : Nat) → Byte → Except MasterResult (Nat × Byte)
  | 0, _, offset, previousObjectId => .ok (offset,previousObjectId)
  | n+1, i, offset, previousObjectId =>
    if length-2 < offset+2 then .error .errorResponseLength
    else
      let objectId := adu offset
      let objectLength := (adu (offset+1)).toNat
      if length-2 < offset+2+objectLength then .error .errorResponseLength
      else if 0 < i ∧ objectId.toNat ≤ previousObjectId.toNat then .error .errorMalformedResponse
      else if ¬ deviceIdObjectMatchesCategory objectId category then
        .error .errorMalformedResponse
      else if readCode = 0x04#8 ∧ objectId ≠ loByte request.quantity then
        .error .errorAcknowledgementMismatch
      else if readCode ≠ 0x04#8 ∧ i = 0 ∧ objectId ≠ 0#8 ∧ objectId ≠ loByte request.quantity then
        .error .errorAcknowledgementMismatch
      else checkObjects readCode category n (i+1) (offset+2+objectLength) objectId

def effectiveCategory (readCode conformityLevel : Byte) : Byte :=
  let category := deviceIdConformityCategory conformityLevel
  if readCode ≠ 0x04#8 ∧ readCode.toNat < category.toNat then readCode else category

def deviceIdHeaderIsBad (readCode conformityLevel moreFollows nextObjectId objectCount : Byte) :
    Bool :=
  readCode ≠ loByte request.startAddress ∨ ¬ deviceIdConformityIsValid conformityLevel ∨
    (moreFollows ≠ 0#8 ∧ moreFollows ≠ 0xFF#8) ∨ objectCount = 0#8 ∨
    (moreFollows = 0#8 ∧ nextObjectId ≠ 0#8) ∨ (moreFollows = 0xFF#8 ∧ nextObjectId = 0#8) ∨
    (readCode = 0x04#8 ∧ (conformityLevel &&& 0x80#8 = 0#8 ∨ moreFollows ≠ 0#8 ∨
      nextObjectId ≠ 0#8 ∨ objectCount ≠ 1#8))

def checkDeviceId : MasterResult × Response :=
  if length < 12 then reject .errorResponseLength
  else if adu 2 ≠ 0x0E#8 then reject .errorMalformedResponse
  else if deviceIdHeaderIsBad request (adu 3) (adu 4) (adu 5) (adu 6) (adu 7) then
    reject .errorMalformedResponse
  else
    let category := effectiveCategory (adu 3) (adu 4)
    match checkObjects request adu length (adu 3) category (adu 7).toNat 0 8 0 with
    | .error e => reject e
    | .ok (offset,previousObjectId) =>
      if offset ≠ length-2 then reject .errorResponseLength
      else if adu 5 = 0xFF#8 ∧ ((adu 6).toNat ≤ previousObjectId.toNat ∨
          ¬ deviceIdObjectMatchesCategory (adu 6) category) then reject .errorMalformedResponse
      else accept request (some 2) (length-4)

def checkNormalResponse : MasterResult × Response :=
  match request.function.toNat with
  | 0x01 | 0x02 => checkReadBits request adu length
  | 0x14 => checkReadFileRecord request requestAdu requestAduLength adu length
  | 0x15 => checkWriteFileRecord request requestAdu requestAduLength adu length
  | 0x03 | 0x04 | 0x17 => checkReadRegisters request adu length
  | 0x05 | 0x06 => checkWriteAck request adu length request.value
  | 0x0F | 0x10 => checkWriteAck request adu length request.quantity
  | 0x16 => checkMaskWriteAck request adu length
  | 0x07 => checkExceptionStatus request length
  | 0x08 => checkDiagnostics request requestAdu requestAduLength adu length
  | 0x0B => checkCommEventCounter request length
  | 0x0C => checkCommEventLog request adu length
  | 0x11 => checkServerId request adu length
  | 0x18 => checkFifoQueue request adu length
  | 0x2B =>
    if request.value ≠ 0x0E#16 then checkMei request adu length
    else checkDeviceId request adu length
  | _ => reject .errorFunction

/-- The checks that do not depend on the function: length, CRC, address, exception. -/
def checkResponse : MasterResult × Response :=
  if length < 5 ∨ 256 < length then reject .errorResponseLength
  else if mbCrc16 adu length ≠ 0#16 then reject .errorCrc
  else if adu 0 ≠ request.slaveAddress then reject .errorAddressMismatch
  else if adu 1 = request.function ||| 0x80#8 then
    if length ≠ 5 then reject .errorResponseLength
    else if adu 2 = 0#8 then reject .errorMalformedResponse
    else (.exceptionResponse,⟨request.function,adu 2,none,0⟩)
  else if adu 1 ≠ request.function then reject .errorFunctionMismatch
  else checkNormalResponse request requestAdu requestAduLength adu length

end Functions

def requiresRequestAdu (function : Byte) : Bool :=
  function = 0x08#8 ∨ function = 0x14#8 ∨ function = 0x15#8

def mbrtumProcessResponseWithRequestAdu (request : Request) (requestAdu : Option (Mem Byte))
    (requestAduLength : Nat) (responseAdu : Option (Mem Byte)) (responseAduLength : Nat) :
    MasterResult × Response :=
  match responseAdu with
  | none => reject .errorArgument
  | some adu =>
    match validateRequestDescriptor request with
    | .ok =>
      if requiresRequestAdu request.function ∧
          ¬ originalRequestAduIsValid request requestAdu requestAduLength then
        reject .errorRequestDataRequired
      else checkResponse request (requestAdu.getD fun _ => 0) requestAduLength adu responseAduLength
    | e => reject e

def mbrtumProcessResponse (request : Request) (responseAdu : Option (Mem Byte))
    (responseAduLength : Nat) : MasterResult × Response :=
  mbrtumProcessResponseWithRequestAdu request none 0 responseAdu responseAduLength

end ModbusStack
