import ModbusStack.DeviceId

/-! FC20 and FC21 on the configured files, and the FC24 FIFO queues. -/
set_option autoImplicit false

namespace ModbusStack
open ByteMemory

inductive FileRecordResult where
  | ok | errorArgument | errorCapacity | errorFiles
  deriving DecidableEq, Repr

/-- The validation loop of `mb_file_record_configure` over the files from `i` on. -/
def validateFiles (files : Mem FileRecordFile) : (n i : Nat) → FileRecordResult
  | 0, _ => .ok
  | n+1, i =>
    if (files i).fileNumber = 0#16 ∨ (files i).records = 0 ∨ (files i).recordCount = 0 ∨
        10000 < (files i).recordCount then .errorFiles
    else if 0 < i ∧ (files i).fileNumber.toNat ≤ (files (i-1)).fileNumber.toNat then .errorFiles
    else validateFiles files n (i+1)

def mbFileRecordConfigure (s : Server) (files : Option (Mem FileRecordFile)) (fileCount : Nat) :
    FileRecordResult × Server :=
  match files with
  | none => (.errorArgument,s)
  | some files =>
    if fileCount = 0 ∨ 8 < fileCount then (.errorCapacity,s)
    else
      match validateFiles files fileCount 0 with
      | .ok =>
        let s := s.emit .lock
        let s := s.modify .fileTable { s.data with fileRecord :=
          ⟨fileCount,store FileRecordState.cleared.files 0 (slice files 0 fileCount)⟩ }
        (.ok,s.emit .unlock)
      | e => (e,s)

def mbFileRecordClear (s : Server) : Server :=
  let s := s.emit .lock
  let s := s.modify .fileTable { s.data with fileRecord := .cleared }
  s.emit .unlock

def mbFileRecordIsConfigured (s : Server) : Bool × Server :=
  let s := s.emit .lock
  (decide (s.data.fileRecord.fileCount ≠ 0),s.emit .unlock)

/-- The lookup loop from `i` on, with its early exit at a larger file number. -/
def findFileFrom (st : FileRecordState) (fileNumber : Word) : (n i : Nat) → Option FileRecordFile
  | 0, _ => none
  | n+1, i =>
    if (st.files i).fileNumber = fileNumber then some (st.files i)
    else if fileNumber.toNat < (st.files i).fileNumber.toNat then none
    else findFileFrom st fileNumber n (i+1)

def findFileRecordUnlocked (st : FileRecordState) (fileNumber : Word) : Option FileRecordFile :=
  findFileFrom st fileNumber st.fileCount 0

/-- The seven-byte head of a sub-request at `offset`. -/
structure Subrequest where
  referenceType : Byte
  fileNumber : Word
  recordNumber : Word
  recordLength : Word
  deriving DecidableEq, Repr

def readSubrequest (pdu : Mem Byte) (offset : Nat) : Subrequest where
  referenceType := pdu offset
  fileNumber := be16 (pdu (offset+1)) (pdu (offset+2))
  recordNumber := be16 (pdu (offset+3)) (pdu (offset+4))
  recordLength := be16 (pdu (offset+5)) (pdu (offset+6))

def fileRangeIsBad (st : FileRecordState) (r : Subrequest) : Bool :=
  match findFileRecordUnlocked st r.fileNumber with
  | none => true
  | some file => file.recordCount < r.recordNumber.toNat ∨
      file.recordCount-r.recordNumber.toNat < r.recordLength.toNat

/-- Validation pass of FC20: the summed sub-response length, or an exception. -/
def validateReadSubrequests (st : FileRecordState) (pdu : Mem Byte) (len : Nat) :
    (fuel offset total : Nat) → Except Byte Nat
  | 0, _, total => .ok total
  | fuel+1, offset, total =>
    if offset < len then
      let r := readSubrequest pdu offset
      if r.referenceType ≠ 0x06#8 then .error exIllegalDataAddress
      else if r.recordLength = 0#16 then .error exIllegalDataValue
      else if 10000 ≤ r.recordNumber.toNat ∨
          10000 < r.recordNumber.toNat+r.recordLength.toNat then .error exIllegalDataAddress
      else if fileRangeIsBad st r then .error exIllegalDataAddress
      else if 245-total < 2+r.recordLength.toNat*2 then .error exIllegalDataValue
      else validateReadSubrequests st pdu len fuel (offset+7) (total+(2+r.recordLength.toNat*2))
    else .ok total

def readRecords (memory : Mem Word) (file : FileRecordFile) (first count : Nat) : List Word :=
  slice memory (file.records+first) count

/-- Emission pass of FC20. -/
def emitReadSubresponses (d : DataModel) (pdu : Mem Byte) (len : Nat) :
    (fuel offset : Nat) → List Byte
  | 0, _ => []
  | fuel+1, offset =>
    if offset < len then
      let r := readSubrequest pdu offset
      let words := match findFileRecordUnlocked d.fileRecord r.fileNumber with
        | some file => readRecords d.memory file r.recordNumber.toNat r.recordLength.toNat
        | none => []
      [BitVec.ofNat 8 (1+r.recordLength.toNat*2),0x06#8] ++ encodeWords words ++
        emitReadSubresponses d pdu len fuel (offset+7)
    else []

def mbFileRecordProcessReadRequest (s : Server) (pdu : Mem Byte) (len responseCapacity : Nat) :
    Except Byte (List Byte) × Server :=
  if len < 2 then (.error exIllegalDataValue,s)
  else
    let requestDataLength := (pdu 1).toNat
    if requestDataLength < 7 ∨ 245 < requestDataLength ∨ requestDataLength%7 ≠ 0 ∨
        len ≠ 2+requestDataLength then (.error exIllegalDataValue,s)
    else
      let limit := responseLimit responseCapacity
      let s := s.emit .lock
      match validateReadSubrequests s.data.fileRecord pdu len len 2 0 with
      | .error e => (.error e,s.emit .unlock)
      | .ok responseDataLength =>
        if limit < 2+responseDataLength then (.error exServerFailure,s.emit .unlock)
        else
          (.ok ([0x14#8,BitVec.ofNat 8 responseDataLength] ++
            emitReadSubresponses s.data pdu len len 2),s.emit .unlock)

/-- Validation pass of FC21: the final offset and the number of sub-requests. -/
def validateWriteSubrequests (st : FileRecordState) (pdu : Mem Byte) (len : Nat) :
    (fuel offset count : Nat) → Except Byte (Nat × Nat)
  | 0, offset, count => .ok (offset,count)
  | fuel+1, offset, count =>
    if offset < len then
      if len-offset < 7 then .error exIllegalDataValue
      else
        let r := readSubrequest pdu offset
        if r.referenceType ≠ 0x06#8 then .error exIllegalDataAddress
        else if r.recordLength = 0#16 then .error exIllegalDataValue
        else if 10000 ≤ r.recordNumber.toNat ∨
            10000 < r.recordNumber.toNat+r.recordLength.toNat then .error exIllegalDataAddress
        else if len-offset < 7+r.recordLength.toNat*2 then .error exIllegalDataValue
        else if fileRangeIsBad st r then .error exIllegalDataAddress
        else if 27 < count+1 then .error exIllegalDataValue
        else validateWriteSubrequests st pdu len fuel (offset+(7+r.recordLength.toNat*2)) (count+1)
    else .ok (offset,count)

def writeRecord (s : Server) (address : Nat) (value : Word) : Server :=
  s.modify .fileRecords { s.data with memory := put s.data.memory address value }

/-- The inner loop of the write pass: `n` records from `i` on. -/
def writeRecords (base : Nat) (pdu : Mem Byte) (dataOffset : Nat) : (n i : Nat) → Server → Server
  | 0, _, s => s
  | n+1, i, s =>
    writeRecords base pdu dataOffset n (i+1) (writeRecord s (base+i)
      (be16 (pdu (dataOffset+i*2)) (pdu (dataOffset+i*2+1))))

/-- Write pass of FC21. -/
def applyWriteSubrequests (pdu : Mem Byte) (len : Nat) : (fuel offset : Nat) → Server → Server
  | 0, _, s => s
  | fuel+1, offset, s =>
    if offset < len then
      let r := readSubrequest pdu offset
      let s := match findFileRecordUnlocked s.data.fileRecord r.fileNumber with
        | some file => writeRecords (file.records+r.recordNumber.toNat) pdu (offset+7)
            r.recordLength.toNat 0 s
        | none => s
      applyWriteSubrequests pdu len fuel (offset+7+r.recordLength.toNat*2) s
    else s

def mbFileRecordProcessWriteRequest (s : Server) (pdu : Mem Byte) (len responseCapacity : Nat) :
    Except Byte (List Byte) × Server :=
  if len < 2 then (.error exIllegalDataValue,s)
  else
    let requestDataLength := (pdu 1).toNat
    if requestDataLength < 9 ∨ 251 < requestDataLength ∨ len ≠ 2+requestDataLength then
      (.error exIllegalDataValue,s)
    else
      let limit := responseLimit responseCapacity
      let s := s.emit .lock
      match validateWriteSubrequests s.data.fileRecord pdu len len 2 0 with
      | .error e => (.error e,s.emit .unlock)
      | .ok (offset,count) =>
        if offset ≠ len ∨ count = 0 then (.error exIllegalDataValue,s.emit .unlock)
        else if limit < len then (.error exServerFailure,s.emit .unlock)
        else
          let s := applyWriteSubrequests pdu len len 2 s
          (.ok (slice pdu 0 len),s.emit .unlock)

inductive FifoResult where
  | ok | errorArgument | errorCapacity | errorQueues
  deriving DecidableEq, Repr

def validateQueues (queues : Mem FifoQueue) : (n i : Nat) → FifoResult
  | 0, _ => .ok
  | n+1, i =>
    if (queues i).registers = 0 ∨ (queues i).registerCount = 0 ∨
        32 < (queues i).registerCount then .errorQueues
    else if 0 < i ∧ (queues i).pointerAddress.toNat ≤ (queues (i-1)).pointerAddress.toNat then
      .errorQueues
    else validateQueues queues n (i+1)

def mbFifoConfigure (s : Server) (queues : Option (Mem FifoQueue)) (queueCount : Nat) :
    FifoResult × Server :=
  match queues with
  | none => (.errorArgument,s)
  | some queues =>
    if queueCount = 0 ∨ 8 < queueCount then (.errorCapacity,s)
    else
      match validateQueues queues queueCount 0 with
      | .ok =>
        let s := s.emit .lock
        let s := s.modify .fifoTable { s.data with fifo :=
          ⟨queueCount,store FifoState.cleared.queues 0 (slice queues 0 queueCount)⟩ }
        (.ok,s.emit .unlock)
      | e => (e,s)

def mbFifoClear (s : Server) : Server :=
  let s := s.emit .lock
  let s := s.modify .fifoTable { s.data with fifo := .cleared }
  s.emit .unlock

def mbFifoIsConfigured (s : Server) : Bool × Server :=
  let s := s.emit .lock
  (decide (s.data.fifo.queueCount ≠ 0),s.emit .unlock)

def findFifoFrom (st : FifoState) (pointerAddress : Word) : (n i : Nat) → Option FifoQueue
  | 0, _ => none
  | n+1, i =>
    if (st.queues i).pointerAddress = pointerAddress then some (st.queues i)
    else if pointerAddress.toNat < (st.queues i).pointerAddress.toNat then none
    else findFifoFrom st pointerAddress n (i+1)

def findFifoUnlocked (st : FifoState) (pointerAddress : Word) : Option FifoQueue :=
  findFifoFrom st pointerAddress st.queueCount 0

def mbFifoProcessReadRequest (s : Server) (pdu : Mem Byte) (len responseCapacity : Nat) :
    Except Byte (List Byte) × Server :=
  if len ≠ 3 then (.error exIllegalDataValue,s)
  else
    let s := s.emit .lock
    match findFifoUnlocked s.data.fifo (be16 (pdu 1) (pdu 2)) with
    | none => (.error exIllegalDataAddress,s.emit .unlock)
    | some queue =>
      let fifoCount := s.data.memory queue.registers
      if 31 < fifoCount.toNat then (.error exIllegalDataValue,s.emit .unlock)
      else if queue.registerCount < 1+fifoCount.toNat then (.error exServerFailure,s.emit .unlock)
      else
        let byteCount := 2+fifoCount.toNat*2
        if responseCapacity < 3+byteCount then (.error exServerFailure,s.emit .unlock)
        else
          (.ok ([0x18#8] ++ writeBe16 (BitVec.ofNat 16 byteCount) ++ writeBe16 fifoCount ++
            encodeWords (slice s.data.memory (queue.registers+1) fifoCount.toNat)),
            s.emit .unlock)

end ModbusStack
