import ModbusStack.FileRecord
import ModbusStack.Mei

/-! `process_pdu_function`, `mb_process_pdu` and the Modbus TCP wrapper `mbtcp_process_adu`. -/
set_option autoImplicit false

namespace ModbusStack
open ByteMemory

def rangeIsValid (first quantity : Word) (limit : Nat) : Bool :=
  0 < quantity.toNat ∧ first.toNat < limit ∧ quantity.toNat ≤ limit-first.toNat

/-- The element address that the loops compute: `(uint16_t)(address + i)`. -/
def elementAddress (address : Word) (i : Nat) : Word := address+BitVec.ofNat 16 i

section Functions
variable (cfg : Platform)

/-- The packing loop: `data[i / 8] |= bit << (i % 8)` for `i < quantity`. -/
def packBits (bit : Nat → Byte) (quantity : Nat) : List Byte :=
  (List.range quantity).foldl
    (fun data i => data.modify (i/8) fun b => b ||| ((bit i &&& 1#8) <<< (i%8)))
    (List.replicate ((quantity+7)/8) 0#8)

/-- FC01 and FC02. -/
def readBits (s : Server) (function : Byte) (limit : Nat) (get : DataModel → Word → Byte)
    (pdu : Mem Byte) (len capacity : Nat) : Except Byte (List Byte) × Server :=
  if len ≠ 5 then (.error exIllegalDataValue,s)
  else
    let address := readBe16 (pdu.off 1)
    let quantity := readBe16 (pdu.off 3)
    if quantity.toNat = 0 ∨ 2000 < quantity.toNat then (.error exIllegalDataValue,s)
    else if ¬ rangeIsValid address quantity limit then (.error exIllegalDataAddress,s)
    else
      let byteCount := (quantity.toNat+7)/8
      if capacity < 2+byteCount then (.error exServerFailure,s)
      else
        (.ok ([function,BitVec.ofNat 8 byteCount] ++
          packBits (fun i => get s.data (elementAddress address i)) quantity.toNat),s)

/-- FC03 and FC04. -/
def readRegisters (s : Server) (function : Byte) (limit : Nat) (get : DataModel → Word → Word)
    (pdu : Mem Byte) (len capacity : Nat) : Except Byte (List Byte) × Server :=
  if len ≠ 5 then (.error exIllegalDataValue,s)
  else
    let address := readBe16 (pdu.off 1)
    let quantity := readBe16 (pdu.off 3)
    if quantity.toNat = 0 ∨ 125 < quantity.toNat then (.error exIllegalDataValue,s)
    else if ¬ rangeIsValid address quantity limit then (.error exIllegalDataAddress,s)
    else
      let byteCount := quantity.toNat*2
      if capacity < 2+byteCount then (.error exServerFailure,s)
      else
        (.ok ([function,BitVec.ofNat 8 byteCount] ++ encodeWords
          ((List.range quantity.toNat).map fun i => get s.data (elementAddress address i))),s)

def writeSingleCoil (s : Server) (pdu : Mem Byte) (len capacity : Nat) :
    Except Byte (List Byte) × Server :=
  if len ≠ 5 then (.error exIllegalDataValue,s)
  else
    let address := readBe16 (pdu.off 1)
    if ¬ rangeIsValid address 1 cfg.maxCoils then (.error exIllegalDataAddress,s)
    else
      let value := readBe16 (pdu.off 3)
      if value ≠ 0xFF00#16 ∧ value ≠ 0x0000#16 then (.error exIllegalDataValue,s)
      else if capacity < 5 then (.error exServerFailure,s)
      else
        (.ok (slice pdu 0 5),mbSetCoil cfg s address (if value = 0xFF00#16 then 1#8 else 0#8))

def writeSingleRegister (s : Server) (pdu : Mem Byte) (len capacity : Nat) :
    Except Byte (List Byte) × Server :=
  if len ≠ 5 then (.error exIllegalDataValue,s)
  else
    let address := readBe16 (pdu.off 1)
    if ¬ rangeIsValid address 1 cfg.maxHregs then (.error exIllegalDataAddress,s)
    else if capacity < 5 then (.error exServerFailure,s)
    else (.ok (slice pdu 0 5),mbSetHreg cfg s address (readBe16 (pdu.off 3)))

def setCoils (address : Word) (bit : Nat → Byte) : (n i : Nat) → Server → Server
  | 0, _, s => s
  | n+1, i, s => setCoils address bit n (i+1) (mbSetCoil cfg s (elementAddress address i) (bit i))

def setHregs (address : Word) (value : Nat → Word) : (n i : Nat) → Server → Server
  | 0, _, s => s
  | n+1, i, s =>
    setHregs address value n (i+1) (mbSetHreg cfg s (elementAddress address i) (value i))

def writeMultipleCoils (s : Server) (pdu : Mem Byte) (len capacity : Nat) :
    Except Byte (List Byte) × Server :=
  if len < 6 then (.error exIllegalDataValue,s)
  else
    let address := readBe16 (pdu.off 1)
    let quantity := readBe16 (pdu.off 3)
    if quantity.toNat = 0 ∨ 1968 < quantity.toNat then (.error exIllegalDataValue,s)
    else if ¬ rangeIsValid address quantity cfg.maxCoils then (.error exIllegalDataAddress,s)
    else
      let byteCount := (quantity.toNat+7)/8
      if (pdu 5).toNat ≠ byteCount ∨ len ≠ 6+byteCount then (.error exIllegalDataValue,s)
      else if capacity < 5 then (.error exServerFailure,s)
      else
        (.ok ([0x0F#8] ++ writeBe16 address ++ writeBe16 quantity),
          setCoils cfg address (fun i => (pdu (6+i/8) >>> (i%8)) &&& 1#8) quantity.toNat 0 s)

def writeMultipleRegisters (s : Server) (pdu : Mem Byte) (len capacity : Nat) :
    Except Byte (List Byte) × Server :=
  if len < 6 then (.error exIllegalDataValue,s)
  else
    let address := readBe16 (pdu.off 1)
    let quantity := readBe16 (pdu.off 3)
    if quantity.toNat = 0 ∨ 123 < quantity.toNat then (.error exIllegalDataValue,s)
    else if ¬ rangeIsValid address quantity cfg.maxHregs then (.error exIllegalDataAddress,s)
    else
      let byteCount := quantity.toNat*2
      if (pdu 5).toNat ≠ byteCount ∨ len ≠ 6+byteCount then (.error exIllegalDataValue,s)
      else if capacity < 5 then (.error exServerFailure,s)
      else
        (.ok ([0x10#8] ++ writeBe16 address ++ writeBe16 quantity),
          setHregs cfg address (fun i => readBe16 (pdu.off (6+2*i))) quantity.toNat 0 s)

def maskWriteRegister (s : Server) (pdu : Mem Byte) (len capacity : Nat) :
    Except Byte (List Byte) × Server :=
  if len ≠ 7 then (.error exIllegalDataValue,s)
  else
    let address := readBe16 (pdu.off 1)
    if ¬ rangeIsValid address 1 cfg.maxHregs then (.error exIllegalDataAddress,s)
    else if capacity < 7 then (.error exServerFailure,s)
    else
      (.ok (slice pdu 0 7),
        (mbMaskWriteHreg cfg s address (readBe16 (pdu.off 3)) (readBe16 (pdu.off 5))).2)

/-- FC17h: all checks, then the write, then the read of what is there afterwards. -/
def readWriteMultipleRegisters (s : Server) (pdu : Mem Byte) (len capacity : Nat) :
    Except Byte (List Byte) × Server :=
  if len < 10 then (.error exIllegalDataValue,s)
  else
    let readAddress := readBe16 (pdu.off 1)
    let readQuantity := readBe16 (pdu.off 3)
    let writeAddress := readBe16 (pdu.off 5)
    let writeQuantity := readBe16 (pdu.off 7)
    if readQuantity.toNat = 0 ∨ 125 < readQuantity.toNat ∨ writeQuantity.toNat = 0 ∨
        121 < writeQuantity.toNat then (.error exIllegalDataValue,s)
    else if ¬ rangeIsValid readAddress readQuantity cfg.maxHregs ∨
        ¬ rangeIsValid writeAddress writeQuantity cfg.maxHregs then (.error exIllegalDataAddress,s)
    else if (pdu 9).toNat ≠ writeQuantity.toNat*2 ∨ len ≠ 10+writeQuantity.toNat*2 then
      (.error exIllegalDataValue,s)
    else if capacity < 2+readQuantity.toNat*2 then (.error exServerFailure,s)
    else
      let s := setHregs cfg writeAddress (fun i => readBe16 (pdu.off (10+i*2)))
        writeQuantity.toNat 0 s
      (.ok ([0x17#8,BitVec.ofNat 8 (readQuantity.toNat*2)] ++ encodeWords
        ((List.range readQuantity.toNat).map fun i =>
          mbGetHreg cfg s.data (elementAddress readAddress i))),s)

def processPduFunction (s : Server) (pdu : Mem Byte) (len capacity : Nat) :
    Except Byte (List Byte) × Server :=
  if len = 0 then (.error exIllegalDataValue,s)
  else match (pdu 0).toNat with
    | 0x01 => readBits s 0x01#8 cfg.maxCoils (mbGetCoil cfg) pdu len capacity
    | 0x02 => readBits s 0x02#8 cfg.maxDiscreteInputs (mbGetDinput cfg) pdu len capacity
    | 0x03 => readRegisters s 0x03#8 cfg.maxHregs (mbGetHreg cfg) pdu len capacity
    | 0x04 => readRegisters s 0x04#8 cfg.maxIregs (mbGetIreg cfg) pdu len capacity
    | 0x05 => writeSingleCoil cfg s pdu len capacity
    | 0x06 => writeSingleRegister cfg s pdu len capacity
    | 0x0F => writeMultipleCoils cfg s pdu len capacity
    | 0x10 => writeMultipleRegisters cfg s pdu len capacity
    | 0x14 => mbFileRecordProcessReadRequest s pdu len capacity
    | 0x15 => mbFileRecordProcessWriteRequest s pdu len capacity
    | 0x16 => maskWriteRegister cfg s pdu len capacity
    | 0x17 => readWriteMultipleRegisters cfg s pdu len capacity
    | 0x18 => mbFifoProcessReadRequest s pdu len capacity
    | 0x2B => mbMeiProcessRequest cfg s pdu len capacity
    | _ => (.error exIllegalFunction,s)

inductive PduError where
  | size | capacity
  deriving DecidableEq, Repr

def mbProcessPdu (s : Server) (pdu : Mem Byte) (len capacity : Nat) :
    Except PduError (List Byte) × Server :=
  if len = 0 ∨ modbusPduMaxSize < len then (.error .size,s)
  else if capacity < 2 then (.error .capacity,s)
  else
    match processPduFunction cfg s pdu len capacity with
    | (.ok response,s) => (.ok response,s)
    | (.error exception,s) => (.ok [pdu 0 ||| 0x80#8,exception],s)

inductive AduError where
  | size | protocol | length | capacity | pdu
  deriving DecidableEq, Repr

def mbtcpProcessAdu (s : Server) (request : Mem Byte) (len capacity : Nat) :
    Except AduError (List Byte) × Server :=
  if len < 8 ∨ 260 < len then (.error .size,s)
  else if request 2 ≠ 0#8 ∨ request 3 ≠ 0#8 then (.error .protocol,s)
  else
    let lengthField := readBe16 (request.off 4)
    if lengthField.toNat < 2 ∨ 6+lengthField.toNat ≠ len then (.error .length,s)
    else if capacity < 9 then (.error .capacity,s)
    else
      match mbProcessPdu cfg s (request.off 7) (len-7) (capacity-7) with
      | (.error _,s) => (.error .pdu,s)
      | (.ok response,s) =>
        (.ok (slice request 0 4 ++ writeBe16 (BitVec.ofNat 16 (1+response.length)) ++
          [request 6] ++ response),s)

end Functions

end ModbusStack
