import ModbusStack.MasterRequest

/-! The requests that the builders can put on the wire, as values: what each one says,
when it is well formed, its PDU and its descriptor. -/
set_option autoImplicit false

namespace ModbusStack
open ByteMemory

inductive WireRequest where
  | read (function : Byte) (startAddress quantity : Word)
  | writeSingle (function : Byte) (address value : Word)
  | maskWriteRegister (address andMask orMask : Word)
  | writeMultipleCoils (startAddress quantity : Word) (packed : List Byte)
  | writeMultipleRegisters (startAddress quantity : Word) (values : List Word)
  | readWriteMultipleRegisters (readStart readQuantity writeStart writeQuantity : Word)
      (values : List Word)
  | readFileRecord (subrequests : List FileRecordRequest)
  | writeFileRecord (subrequests : List (FileRecordRequest × List Word))
  | readFifoQueue (pointerAddress : Word)
  | mei (meiType : Byte) (data : List Byte)
  | readDeviceIdentification (readCode objectId : Byte)
  | status (function : Byte)
  | reportServerId (expectedLength : Word)
  | diagnostics (subfunction : Word) (data : List Byte)

structure FileRecordRequest.Valid (r : FileRecordRequest) : Prop where
  file : r.fileNumber ≠ 0#16
  range : fileRecordRangeIsValid r.recordNumber r.recordLength = true

def FileRecordRequest.responseLength (r : FileRecordRequest) : Nat := 2+r.recordLength.toNat*2

def FileRecordRequest.writeLength (r : FileRecordRequest) : Nat := 7+r.recordLength.toNat*2

def encodeWriteSubrequest (r : FileRecordRequest × List Word) : List Byte :=
  r.1.encode ++ encodeWords r.2

namespace WireRequest

def readLength (subrequests : List FileRecordRequest) : Nat :=
  (subrequests.map FileRecordRequest.responseLength).sum

def writeLength (subrequests : List (FileRecordRequest × List Word)) : Nat :=
  (subrequests.map fun r => r.1.writeLength).sum

@[simp] theorem readLength_cons (r : FileRecordRequest) (rest : List FileRecordRequest) :
    readLength (r :: rest) = 2+r.recordLength.toNat*2+readLength rest := rfl

@[simp] theorem writeLength_cons (r : FileRecordRequest × List Word)
    (rest : List (FileRecordRequest × List Word)) :
    writeLength (r :: rest) = 7+r.1.recordLength.toNat*2+writeLength rest := rfl

def function : WireRequest → Byte
  | .read f _ _ | .writeSingle f _ _ | .status f => f
  | .maskWriteRegister .. => 0x16#8
  | .writeMultipleCoils .. => 0x0F#8
  | .writeMultipleRegisters .. => 0x10#8
  | .readWriteMultipleRegisters .. => 0x17#8
  | .readFileRecord .. => 0x14#8
  | .writeFileRecord .. => 0x15#8
  | .readFifoQueue .. => 0x18#8
  | .mei .. | .readDeviceIdentification .. => 0x2B#8
  | .reportServerId .. => 0x11#8
  | .diagnostics .. => 0x08#8

def body : WireRequest → List Byte
  | .read _ start quantity => writeBe16 start ++ writeBe16 quantity
  | .writeSingle _ address value => writeBe16 address ++ writeBe16 value
  | .maskWriteRegister address andMask orMask =>
    writeBe16 address ++ writeBe16 andMask ++ writeBe16 orMask
  | .writeMultipleCoils start quantity packed =>
    writeBe16 start ++ writeBe16 quantity ++ [BitVec.ofNat 8 ((quantity.toNat+7)/8)] ++ packed
  | .writeMultipleRegisters start quantity values =>
    writeBe16 start ++ writeBe16 quantity ++ [BitVec.ofNat 8 (quantity.toNat*2)] ++
      encodeWords values
  | .readWriteMultipleRegisters readStart readQuantity writeStart writeQuantity values =>
    writeBe16 readStart ++ writeBe16 readQuantity ++ writeBe16 writeStart ++
      writeBe16 writeQuantity ++ [BitVec.ofNat 8 (writeQuantity.toNat*2)] ++ encodeWords values
  | .readFileRecord subrequests =>
    [BitVec.ofNat 8 (subrequests.length*7)] ++ subrequests.flatMap FileRecordRequest.encode
  | .writeFileRecord subrequests =>
    [BitVec.ofNat 8 (writeLength subrequests)] ++ subrequests.flatMap encodeWriteSubrequest
  | .readFifoQueue pointerAddress => writeBe16 pointerAddress
  | .mei meiType data => meiType :: data
  | .readDeviceIdentification readCode objectId => [0x0E#8,readCode,objectId]
  | .status _ | .reportServerId _ => []
  | .diagnostics subfunction data => writeBe16 subfunction ++ data

def pdu (w : WireRequest) : List Byte := w.function :: w.body

def frame (w : WireRequest) (address : Byte) : List Byte := address :: w.pdu

def descriptor (address : Byte) : WireRequest → Request
  | .read f start quantity => finishRequest address f start quantity 0#16
  | .writeSingle f start value => finishRequest address f start 1#16 value
  | .maskWriteRegister start andMask orMask => finishRequest address 0x16#8 start andMask orMask
  | .writeMultipleCoils start quantity _ => finishRequest address 0x0F#8 start quantity 0#16
  | .writeMultipleRegisters start quantity _ => finishRequest address 0x10#8 start quantity 0#16
  | .readWriteMultipleRegisters readStart readQuantity writeStart writeQuantity _ =>
    { finishRequest address 0x17#8 readStart readQuantity 0#16 with
      writeStartAddress := writeStart
      writeQuantity := writeQuantity }
  | .readFileRecord subrequests =>
    finishRequest address 0x14#8 (BitVec.ofNat 16 (subrequests.length*7))
      (BitVec.ofNat 16 (readLength subrequests)) (BitVec.ofNat 16 subrequests.length)
  | .writeFileRecord subrequests =>
    finishRequest address 0x15#8 (BitVec.ofNat 16 (writeLength subrequests))
      (BitVec.ofNat 16 subrequests.length) 0#16
  | .readFifoQueue pointerAddress => finishRequest address 0x18#8 pointerAddress 0#16 0#16
  | .mei meiType data =>
    finishRequest address 0x2B#8 (BitVec.ofNat 16 data.length) 0#16 (meiType.setWidth 16)
  | .readDeviceIdentification readCode objectId =>
    finishRequest address 0x2B#8 (readCode.setWidth 16) (objectId.setWidth 16) 0x0E#16
  | .status f => finishRequest address f 0#16 0#16 0#16
  | .reportServerId expectedLength =>
    { finishRequest address 0x11#8 0#16 0#16 0#16 with quantity := expectedLength }
  | .diagnostics subfunction data =>
    { finishRequest address 0x08#8 subfunction (BitVec.ofNat 16 data.length) 0#16 with
      expectsResponse := if address ≠ 0#8 ∧ subfunction ≠ 0x0004#16 then 1#8 else 0#8 }

def PaddingClear (quantity : Nat) (packed : List Byte) : Prop :=
  quantity%8 ≠ 0 → ofList packed (packed.length-1) &&& ~~~((1#8 <<< (quantity%8))-1#8) = 0#8

/-- The rules of the format, as each builder enforces them. -/
def WellFormed (address : Byte) : WireRequest → Prop
  | .read f start quantity => unicastAddressIsValid address = true ∧
    addressRangeIsValid start quantity = true ∧
    ((f ∈ [0x01#8,0x02#8] ∧ quantity.toNat ≤ 2000) ∨ (f ∈ [0x03#8,0x04#8] ∧ quantity.toNat ≤ 125))
  | .writeSingle f _ value => writeAddressIsValid address = true ∧
    ((f = 0x05#8 ∧ (value = 0x0000#16 ∨ value = 0xFF00#16)) ∨ f = 0x06#8)
  | .maskWriteRegister _ _ _ => writeAddressIsValid address = true
  | .writeMultipleCoils start quantity packed => writeAddressIsValid address = true ∧
    addressRangeIsValid start quantity = true ∧ quantity.toNat ≤ 1968 ∧
    packed.length = (quantity.toNat+7)/8 ∧ PaddingClear quantity.toNat packed
  | .writeMultipleRegisters start quantity values => writeAddressIsValid address = true ∧
    addressRangeIsValid start quantity = true ∧ quantity.toNat ≤ 123 ∧
    values.length = quantity.toNat
  | .readWriteMultipleRegisters readStart readQuantity writeStart writeQuantity values =>
    unicastAddressIsValid address = true ∧ addressRangeIsValid readStart readQuantity = true ∧
    readQuantity.toNat ≤ 125 ∧ addressRangeIsValid writeStart writeQuantity = true ∧
    writeQuantity.toNat ≤ 121 ∧ values.length = writeQuantity.toNat
  | .readFileRecord subrequests => unicastAddressIsValid address = true ∧
    0 < subrequests.length ∧ subrequests.length ≤ 35 ∧ (∀ r ∈ subrequests, r.Valid) ∧
    readLength subrequests ≤ 245
  | .writeFileRecord subrequests => writeAddressIsValid address = true ∧
    0 < subrequests.length ∧ subrequests.length ≤ 27 ∧
    (∀ r ∈ subrequests, r.1.Valid ∧ r.2.length = r.1.recordLength.toNat) ∧
    writeLength subrequests ≤ 251
  | .readFifoQueue _ => unicastAddressIsValid address = true
  | .mei meiType data => unicastAddressIsValid address = true ∧
    meiTypeIsGeneric (meiType.setWidth 16) = true ∧ data.length ≤ 251
  | .readDeviceIdentification readCode _ => unicastAddressIsValid address = true ∧
    deviceIdCodeIsValid (readCode.setWidth 16) = true
  | .status f => unicastAddressIsValid address = true ∧ f ∈ [0x07#8,0x0B#8,0x0C#8]
  | .reportServerId expectedLength => unicastAddressIsValid address = true ∧
    expectedLength ≠ 0#16 ∧ expectedLength.toNat ≤ 250
  | .diagnostics subfunction data => diagnosticSubfunctionIsSupported subfunction = true ∧
    data.length ≤ 250 ∧ data.length%2 = 0 ∧
    (unicastAddressIsValid address = true ∨
      (address = 0#8 ∧ diagnosticSubfunctionIsStateChanging subfunction = true)) ∧
    (subfunction ≠ 0x0000#16 → data.length = 2 ∧
      diagnosticDataIsValid subfunction (readBe16 (ofList data)) = true)

end WireRequest

theorem FileRecordRequest.encode_length (r : FileRecordRequest) : r.encode.length = 7 := rfl

theorem flatMap_encode_length (subrequests : List FileRecordRequest) :
    (subrequests.flatMap FileRecordRequest.encode).length = subrequests.length*7 := by
  induction subrequests with
  | nil => rfl
  | cons r rest ih =>
    simp only [List.flatMap_cons,List.length_append,r.encode_length,ih,List.length_cons]
    omega

theorem flatMap_encodeWrite_length (subrequests : List (FileRecordRequest × List Word))
    (h : ∀ r ∈ subrequests, r.2.length = r.1.recordLength.toNat) :
    (subrequests.flatMap encodeWriteSubrequest).length = WireRequest.writeLength subrequests := by
  induction subrequests with
  | nil => rfl
  | cons r rest ih =>
    have hr := h r List.mem_cons_self
    have ht := ih fun q hq => h q (List.mem_cons_of_mem _ hq)
    simp only [List.flatMap_cons,List.length_append,encodeWriteSubrequest,
      FileRecordRequest.encode_length,encodeWords_length,hr,WireRequest.writeLength_cons,ht]
    omega

namespace BuildCall

def slaveAddress : BuildCall → Byte
  | .readBits a .. | .readRegisters a .. | .writeSingleCoil a .. | .writeSingleRegister a ..
  | .maskWriteRegister a .. | .writeMultipleCoils a .. | .writeMultipleRegisters a ..
  | .readWriteMultipleRegisters a .. | .readFileRecord a .. | .writeFileRecord a ..
  | .readFifoQueue a .. | .mei a .. | .readDeviceIdentification a .. | .readExceptionStatus a
  | .getCommEventCounter a | .getCommEventLog a | .reportServerId a .. | .diagnostics a .. => a

/-- What a pointer argument gives access to; only looked at when it is not NULL. -/
def contents {α : Type} (d : α) (p : Option (Mem α)) : Mem α := p.getD fun _ => d

def wire : BuildCall → WireRequest
  | .readBits _ f start quantity | .readRegisters _ f start quantity => .read f start quantity
  | .writeSingleCoil _ address value =>
    .writeSingle 0x05#8 address (if value = 0#8 then 0x0000#16 else 0xFF00#16)
  | .writeSingleRegister _ address value => .writeSingle 0x06#8 address value
  | .maskWriteRegister _ address andMask orMask => .maskWriteRegister address andMask orMask
  | .writeMultipleCoils _ start quantity packedValues => .writeMultipleCoils start quantity
    (slice (clearPadding (contents 0 packedValues) quantity.toNat) 0 ((quantity.toNat+7)/8))
  | .writeMultipleRegisters _ start quantity values =>
    .writeMultipleRegisters start quantity (slice (contents 0 values) 0 quantity.toNat)
  | .readWriteMultipleRegisters _ readStart readQuantity writeStart writeQuantity values =>
    .readWriteMultipleRegisters readStart readQuantity writeStart writeQuantity
      (slice (contents 0 values) 0 writeQuantity.toNat)
  | .readFileRecord _ subrequests count =>
    .readFileRecord (slice (contents ⟨0,0,0⟩ subrequests) 0 count)
  | .writeFileRecord _ subrequests count => .writeFileRecord
    ((slice (contents ⟨0,0,0,none⟩ subrequests) 0 count).map fun r => (r.head,r.words))
  | .readFifoQueue _ pointerAddress => .readFifoQueue pointerAddress
  | .mei _ meiType data length => .mei meiType (DataBuffer.read data length)
  | .readDeviceIdentification _ code objectId => .readDeviceIdentification code objectId
  | .readExceptionStatus _ => .status 0x07#8
  | .getCommEventCounter _ => .status 0x0B#8
  | .getCommEventLog _ => .status 0x0C#8
  | .reportServerId _ expected => .reportServerId expected
  | .diagnostics _ subfunction data length =>
    .diagnostics subfunction (slice (contents 0 data) 0 length)

end BuildCall

structure Builds (out : RequestBuffer) (b : BuiltRequest) (address : Byte) (w : WireRequest) :
    Prop where
  wellFormed : w.WellFormed address
  built : b = ⟨.ok,w.descriptor address,appendCrc (w.frame address)⟩
  fits : (w.frame address).length+2 ≤ out.capacity

section Builders
variable {out : RequestBuffer} {a : Byte}

theorem builds_emitRequest {w : WireRequest} {length : Nat} {adu : List Byte} {request : Request}
    (hw : w.WellFormed a) (hadu : adu = w.frame a) (hrequest : request = w.descriptor a)
    (hlength : length = (w.frame a).length+2)
    (h : (emitRequest out length adu request).result = .ok) :
    Builds out (emitRequest out length adu request) a w := by
  unfold emitRequest at h ⊢
  split at h
  · cases h
  · rename_i hc
    rw [if_neg hc,hadu,hrequest]
    exact ⟨hw,rfl,by omega⟩

theorem buildFixedRequest_ok {function : Byte} {first second quantity value : Word}
    (h : (buildFixedRequest a function first second quantity value out).result = .ok) :
    buildFixedRequest a function first second quantity value out = emitRequest out 8
      ([a,function] ++ writeBe16 first ++ writeBe16 second)
      (finishRequest a function first quantity value) := by
  unfold buildFixedRequest at h ⊢
  split at h
  · cases h
  · rename_i hn
    rw [if_neg hn]

theorem builds_read {functions : List Byte} {limit : Nat} {f : Byte} {start quantity : Word}
    (hcase : functions = [0x01#8,0x02#8] ∧ limit = 2000 ∨ functions = [0x03#8,0x04#8] ∧ limit = 125)
    (h : (buildReadRequest functions limit a f start quantity out).result = .ok) :
    Builds out (buildReadRequest functions limit a f start quantity out) a
      (.read f start quantity) := by
  unfold buildReadRequest at h ⊢
  split_ifs at h ⊢ with h1 h2 h3 h4
  any_goals cases h
  have he := buildFixedRequest_ok h
  rw [he] at h ⊢
  refine builds_emitRequest ?_ rfl rfl rfl h
  simp only [not_or,not_not,Nat.not_lt] at h3 h4
  refine ⟨h2,h4.2.2,?_⟩
  rcases hcase with ⟨rfl,rfl⟩ | ⟨rfl,rfl⟩
  · exact .inl ⟨h3,h4.2.1⟩
  · exact .inr ⟨h3,h4.2.1⟩

theorem builds_writeSingleCoil {address : Word} {value : Byte}
    (h : (buildWriteSingleCoilRequest a address value out).result = .ok) :
    Builds out (buildWriteSingleCoilRequest a address value out) a
      (.writeSingle 0x05#8 address (if value = 0#8 then 0x0000#16 else 0xFF00#16)) := by
  unfold buildWriteSingleCoilRequest at h ⊢
  dsimp only at h ⊢
  have hv : (if value = 0#8 then 0x0000#16 else 0xFF00#16) = 0x0000#16 ∨
      (if value = 0#8 then 0x0000#16 else 0xFF00#16) = 0xFF00#16 := by split <;> simp
  generalize (if value = 0#8 then 0x0000#16 else 0xFF00#16) = encodedValue at h hv ⊢
  split_ifs at h ⊢ with h1 h2 h3
  any_goals cases h
  have he := buildFixedRequest_ok h
  rw [he] at h ⊢
  exact builds_emitRequest ⟨h2,.inl ⟨rfl,hv⟩⟩ rfl rfl rfl h

theorem builds_writeSingleRegister {address value : Word}
    (h : (buildWriteSingleRegisterRequest a address value out).result = .ok) :
    Builds out (buildWriteSingleRegisterRequest a address value out) a
      (.writeSingle 0x06#8 address value) := by
  unfold buildWriteSingleRegisterRequest at h ⊢
  split_ifs at h ⊢ with h1 h2
  any_goals cases h
  have he := buildFixedRequest_ok h
  rw [he] at h ⊢
  exact builds_emitRequest ⟨h2,.inr rfl⟩ rfl rfl rfl h

theorem builds_maskWriteRegister {address andMask orMask : Word}
    (h : (buildMaskWriteRegisterRequest a address andMask orMask out).result = .ok) :
    Builds out (buildMaskWriteRegisterRequest a address andMask orMask out) a
      (.maskWriteRegister address andMask orMask) := by
  unfold buildMaskWriteRegisterRequest at h ⊢
  split_ifs at h ⊢ with h1 h2
  any_goals cases h
  exact builds_emitRequest h2 rfl rfl rfl h

theorem paddingClear_slice (packed : Mem Byte) (quantity : Nat) :
    WireRequest.PaddingClear quantity
      (slice (clearPadding packed quantity) 0 ((quantity+7)/8)) := by
  intro hr
  have hlast : (quantity+7)/8-1 < (quantity+7)/8 := by omega
  simp only [slice_length,ofList,slice_getD,hlast,if_true,Nat.zero_add,clearPadding,hr,ne_eq,
    not_false_eq_true,put_same]
  rw [BitVec.and_assoc,BitVec.and_not_self]
  simp

theorem builds_writeMultipleCoils {start quantity : Word} {packedValues : Option (Mem Byte)}
    (h : (buildWriteMultipleCoilsRequest a start quantity packedValues out).result = .ok) :
    Builds out (buildWriteMultipleCoilsRequest a start quantity packedValues out) a
      (BuildCall.writeMultipleCoils a start quantity packedValues).wire := by
  unfold buildWriteMultipleCoilsRequest at h ⊢
  cases packedValues with
  | none => cases h
  | some packed =>
    dsimp only at h ⊢
    split_ifs at h ⊢ with h1 h2 h3
    any_goals cases h
    simp only [not_or,not_not,Nat.not_lt] at h3
    refine builds_emitRequest ⟨h2,h3.2.2,h3.2.1,slice_length _ _ _,paddingClear_slice _ _⟩
      (by simp [BuildCall.wire,WireRequest.frame,WireRequest.pdu,WireRequest.function,
        WireRequest.body,BuildCall.contents]) rfl ?_ h
    simp [BuildCall.wire,WireRequest.frame,WireRequest.pdu,WireRequest.body]
    omega

theorem builds_writeMultipleRegisters {start quantity : Word} {values : Option (Mem Word)}
    (h : (buildWriteMultipleRegistersRequest a start quantity values out).result = .ok) :
    Builds out (buildWriteMultipleRegistersRequest a start quantity values out) a
      (BuildCall.writeMultipleRegisters a start quantity values).wire := by
  unfold buildWriteMultipleRegistersRequest at h ⊢
  cases values with
  | none => cases h
  | some values =>
    dsimp only at h ⊢
    split_ifs at h ⊢ with h1 h2 h3
    any_goals cases h
    simp only [not_or,not_not,Nat.not_lt] at h3
    refine builds_emitRequest ⟨h2,h3.2.2,h3.2.1,slice_length _ _ _⟩
      (by simp [BuildCall.wire,WireRequest.frame,WireRequest.pdu,WireRequest.function,
        WireRequest.body,BuildCall.contents]) rfl ?_ h
    simp [BuildCall.wire,WireRequest.frame,WireRequest.pdu,WireRequest.body]
    omega

theorem builds_readWriteMultipleRegisters {readStart readQuantity writeStart writeQuantity : Word}
    {values : Option (Mem Word)}
    (h : (buildReadWriteMultipleRegistersRequest a readStart readQuantity writeStart writeQuantity
      values out).result = .ok) :
    Builds out (buildReadWriteMultipleRegistersRequest a readStart readQuantity writeStart
        writeQuantity values out) a
      (BuildCall.readWriteMultipleRegisters a readStart readQuantity writeStart writeQuantity
        values).wire := by
  unfold buildReadWriteMultipleRegistersRequest at h ⊢
  cases values with
  | none => cases h
  | some values =>
    dsimp only at h ⊢
    split_ifs at h ⊢ with h1 h2 h3
    any_goals cases h
    simp only [not_or,not_not,Nat.not_lt] at h3
    obtain ⟨-,hr,hrange,-,hw,hwrange⟩ := h3
    refine builds_emitRequest ⟨h2,hrange,hr,hwrange,hw,slice_length _ _ _⟩
      (by simp [BuildCall.wire,WireRequest.frame,WireRequest.pdu,WireRequest.function,
        WireRequest.body,BuildCall.contents]) rfl ?_ h
    simp [BuildCall.wire,WireRequest.frame,WireRequest.pdu,WireRequest.body]
    omega

/-- The check loop accepts exactly the valid sub-requests whose answer fits. -/
theorem checkReadSubrequests_ok (subrequests : List FileRecordRequest) (total n : Nat)
    (htotal : total ≤ 245) (h : checkReadSubrequests subrequests total = .ok n) :
    (∀ r ∈ subrequests, r.Valid) ∧ n = total+WireRequest.readLength subrequests ∧ n ≤ 245 := by
  induction subrequests generalizing total with
  | nil =>
    cases h
    exact ⟨by simp,by simp [WireRequest.readLength],htotal⟩
  | cons r rest ih =>
    unfold checkReadSubrequests at h
    split_ifs at h with h1 h2
    simp only [not_or,not_not,Nat.not_lt] at h1 h2
    obtain ⟨hv,hn,hle⟩ := ih (total+(2+r.recordLength.toNat*2)) (by omega) h
    refine ⟨?_,?_,hle⟩
    · intro q hq
      rcases List.mem_cons.mp hq with rfl | hq
      · exact ⟨h1.1,h1.2⟩
      · exact hv q hq
    · rw [WireRequest.readLength_cons]
      omega

theorem checkReadSubrequests_error (subrequests : List FileRecordRequest) (total : Nat)
    {e : MasterResult} (h : checkReadSubrequests subrequests total = .error e) : e ≠ .ok := by
  induction subrequests generalizing total with
  | nil => cases h
  | cons r rest ih =>
    unfold checkReadSubrequests at h
    split_ifs at h with h1 h2
    · cases h; decide
    · cases h; decide
    · exact ih _ h

theorem builds_readFileRecord {subrequests : Option (Mem FileRecordRequest)} {count : Nat}
    (h : (buildReadFileRecordRequest a subrequests count out).result = .ok) :
    Builds out (buildReadFileRecordRequest a subrequests count out) a
      (BuildCall.readFileRecord a subrequests count).wire := by
  unfold buildReadFileRecordRequest at h ⊢
  cases subrequests with
  | none => cases h
  | some subrequests =>
    dsimp only at h ⊢
    split_ifs at h ⊢ with h1 h2 h3 h4
    any_goals cases h
    cases hc : checkReadSubrequests (slice subrequests 0 count) 0 with
    | error e =>
      simp only [hc] at h
      exact absurd h (checkReadSubrequests_error _ _ hc)
    | ok n =>
      simp only [hc] at h ⊢
      obtain ⟨hv,hn,hle⟩ := checkReadSubrequests_ok _ 0 n (by omega) hc
      rw [Nat.zero_add] at hn
      subst hn
      have hlen := flatMap_encode_length (slice subrequests 0 count)
      rw [slice_length] at hlen
      refine builds_emitRequest ⟨h2,?_,?_,hv,hle⟩ ?_ ?_ ?_ h
      · simp [BuildCall.contents]; omega
      · simp [BuildCall.contents]; omega
      · simp [BuildCall.wire,WireRequest.frame,WireRequest.pdu,WireRequest.function,
          WireRequest.body,BuildCall.contents]
      · simp [BuildCall.wire,WireRequest.descriptor,BuildCall.contents]
      · simp [BuildCall.wire,WireRequest.frame,WireRequest.pdu,WireRequest.body,
          BuildCall.contents,hlen]
        omega

theorem checkWriteSubrequests_ok (subrequests : List WriteFileRecordRequest) (total n : Nat)
    (htotal : total ≤ 251) (h : checkWriteSubrequests subrequests total = .ok n) :
    (∀ r ∈ subrequests, r.head.Valid ∧ r.words.length = r.recordLength.toNat) ∧
      n = total+WireRequest.writeLength (subrequests.map fun r => (r.head,r.words)) ∧ n ≤ 251 := by
  induction subrequests generalizing total with
  | nil =>
    cases h
    exact ⟨by simp,by simp [WireRequest.writeLength],htotal⟩
  | cons r rest ih =>
    unfold checkWriteSubrequests at h
    split_ifs at h with h1 h2
    simp only [not_or,not_not,Nat.not_lt] at h1 h2
    obtain ⟨hfile,hdata,hrange⟩ := h1
    obtain ⟨hv,hn,hle⟩ := ih (total+(7+r.recordLength.toNat*2)) (by omega) h
    refine ⟨?_,?_,hle⟩
    · intro q hq
      rcases List.mem_cons.mp hq with rfl | hq
      · refine ⟨⟨hfile,hrange⟩,?_⟩
        cases hd : q.recordData with
        | none => simp [hd] at hdata
        | some data => simp [WriteFileRecordRequest.words,hd]
      · exact hv q hq
    · rw [List.map_cons,WireRequest.writeLength_cons]
      simp only [WriteFileRecordRequest.head] at hn ⊢
      omega

theorem checkWriteSubrequests_error (subrequests : List WriteFileRecordRequest) (total : Nat)
    {e : MasterResult} (h : checkWriteSubrequests subrequests total = .error e) : e ≠ .ok := by
  induction subrequests generalizing total with
  | nil => cases h
  | cons r rest ih =>
    unfold checkWriteSubrequests at h
    split_ifs at h with h1 h2
    · cases h; decide
    · cases h; decide
    · exact ih _ h

theorem builds_writeFileRecord {subrequests : Option (Mem WriteFileRecordRequest)} {count : Nat}
    (h : (buildWriteFileRecordRequest a subrequests count out).result = .ok) :
    Builds out (buildWriteFileRecordRequest a subrequests count out) a
      (BuildCall.writeFileRecord a subrequests count).wire := by
  unfold buildWriteFileRecordRequest at h ⊢
  cases subrequests with
  | none => cases h
  | some subrequests =>
    dsimp only at h ⊢
    split_ifs at h ⊢ with h1 h2 h3
    any_goals cases h
    cases hc : checkWriteSubrequests (slice subrequests 0 count) 0 with
    | error e =>
      simp only [hc] at h
      exact absurd h (checkWriteSubrequests_error _ _ hc)
    | ok n =>
      simp only [hc] at h ⊢
      obtain ⟨hv,hn,hle⟩ := checkWriteSubrequests_ok _ 0 n (by omega) hc
      rw [Nat.zero_add] at hn
      subst hn
      have hvalid : ∀ r ∈ (slice subrequests 0 count).map fun r => (r.head,r.words),
          r.1.Valid ∧ r.2.length = r.1.recordLength.toNat := by
        intro r hr
        obtain ⟨q,hq,rfl⟩ := List.mem_map.mp hr
        exact hv q hq
      have hlen := flatMap_encodeWrite_length _ fun r hr => (hvalid r hr).2
      have hbytes : (slice subrequests 0 count).flatMap WriteFileRecordRequest.encode =
          ((slice subrequests 0 count).map fun r => (r.head,r.words)).flatMap
            encodeWriteSubrequest := by
        rw [List.flatMap_map]
        rfl
      refine builds_emitRequest ⟨h2,?_,?_,hvalid,hle⟩ ?_ ?_ ?_ h
      · simp [BuildCall.contents]; omega
      · simp [BuildCall.contents]; omega
      · simp [BuildCall.wire,WireRequest.frame,WireRequest.pdu,WireRequest.function,
          WireRequest.body,BuildCall.contents,hbytes]
      · simp [BuildCall.wire,WireRequest.descriptor,BuildCall.contents]
      · simp only [BuildCall.wire,WireRequest.frame,WireRequest.pdu,WireRequest.body,
          BuildCall.contents,Option.getD_some,List.length_cons,List.length_append,hlen,
          List.length_nil]
        omega

theorem builds_readFifoQueue {pointerAddress : Word}
    (h : (buildReadFifoQueueRequest a pointerAddress out).result = .ok) :
    Builds out (buildReadFifoQueueRequest a pointerAddress out) a
      (.readFifoQueue pointerAddress) := by
  unfold buildReadFifoQueueRequest at h ⊢
  split_ifs at h ⊢ with h1 h2
  any_goals cases h
  exact builds_emitRequest h2 rfl rfl rfl h

theorem dataBuffer_read_length {data : Option DataBuffer} {length : Nat}
    (h : ¬ (length ≠ 0 ∧ data.isNone = true)) : (DataBuffer.read data length).length = length := by
  cases data with
  | none =>
    have hz : length = 0 := by simpa using h
    simp [DataBuffer.read,hz]
  | some d => simp [DataBuffer.read]

theorem builds_mei {meiType : Byte} {data : Option DataBuffer} {length : Nat}
    (h : (buildMeiRequest a meiType data length out).result = .ok) :
    Builds out (buildMeiRequest a meiType data length out) a
      (.mei meiType (DataBuffer.read data length)) := by
  unfold buildMeiRequest at h ⊢
  split_ifs at h ⊢ with h1 h2 h3 h4 h5 h6
  any_goals cases h
  rw [not_or] at h4
  have hlen := dataBuffer_read_length h4.2
  refine builds_emitRequest ⟨h2,h3,by omega⟩ rfl ?_ ?_ h
  · simp [WireRequest.descriptor,hlen]
  · simp only [WireRequest.frame,WireRequest.pdu,WireRequest.body,List.length_cons,hlen]
    omega

theorem builds_readDeviceIdentification {code objectId : Byte}
    (h : (buildReadDeviceIdentificationRequest a code objectId out).result = .ok) :
    Builds out (buildReadDeviceIdentificationRequest a code objectId out) a
      (.readDeviceIdentification code objectId) := by
  unfold buildReadDeviceIdentificationRequest at h ⊢
  split_ifs at h ⊢ with h1 h2 h3
  any_goals cases h
  exact builds_emitRequest ⟨h2,h3⟩ rfl rfl rfl h

theorem buildFunctionOnlyRequest_ok {f : Byte}
    (h : (buildFunctionOnlyRequest a f out).result = .ok) :
    unicastAddressIsValid a = true ∧ 4 ≤ out.capacity ∧ buildFunctionOnlyRequest a f out =
      ⟨.ok,finishRequest a f 0#16 0#16 0#16,appendCrc [a,f]⟩ := by
  unfold buildFunctionOnlyRequest emitRequest at h ⊢
  split_ifs at h ⊢ with h1 h2 h3
  any_goals cases h
  exact ⟨h2,by omega,rfl⟩

theorem builds_status {f : Byte} (hf : f ∈ [0x07#8,0x0B#8,0x0C#8])
    (h : (buildFunctionOnlyRequest a f out).result = .ok) :
    Builds out (buildFunctionOnlyRequest a f out) a (.status f) := by
  obtain ⟨hu,hc,hb⟩ := buildFunctionOnlyRequest_ok h
  exact ⟨⟨hu,hf⟩,hb,hc⟩

theorem builds_reportServerId {expected : Word}
    (h : (buildReportServerIdRequest a expected out).result = .ok) :
    Builds out (buildReportServerIdRequest a expected out) a (.reportServerId expected) := by
  unfold buildReportServerIdRequest at h ⊢
  dsimp only at h ⊢
  split_ifs at h ⊢ with h1 h2
  · cases h
  · obtain ⟨hu,hc,hb⟩ := buildFunctionOnlyRequest_ok h2
    rw [hb]
    exact ⟨⟨hu,by simpa using h1⟩,rfl,hc⟩
  · exact absurd h h2

theorem builds_diagnostics {subfunction : Word} {data : Option (Mem Byte)} {length : Nat}
    (h : (buildDiagnosticsRequest a subfunction data length out).result = .ok) :
    Builds out (buildDiagnosticsRequest a subfunction data length out) a
      (BuildCall.diagnostics a subfunction data length).wire := by
  unfold buildDiagnosticsRequest at h ⊢
  dsimp only at h ⊢
  generalize hx : (if a ≠ 0#8 ∧ subfunction ≠ 0x0004#16 then 1#8 else 0#8) = expects at h ⊢
  split_ifs at h ⊢ with h1 h2 h3 h4 h5 h6
  any_goals cases h
  refine builds_emitRequest ⟨h2,?_,?_,?_,?_⟩ rfl ?_ ?_ h
  · rw [slice_length]
    omega
  · rw [slice_length]
    omega
  · by_cases hz : a = 0#8
    · exact .inr ⟨hz,not_not.mp fun hc => h4 ⟨hz,hc⟩⟩
    · exact .inl (not_not.mp fun hc => h5 ⟨hz,hc⟩)
  · intro hs
    have hd : length = 2 ∧
        diagnosticDataIsValid subfunction (readBe16 (data.getD fun _ => 0)) = true := by
      simpa [hs] using h6
    obtain ⟨rfl,hd⟩ := hd
    exact ⟨slice_length _ _ _,hd⟩
  · simp [BuildCall.wire,WireRequest.descriptor,← hx]
  · simp only [BuildCall.wire,WireRequest.frame,WireRequest.pdu,WireRequest.body,List.length_cons,
      List.length_append,slice_length,writeBe16_length]
    omega

theorem BuildCall.build_ok (call : BuildCall) (h : (call.build out).result = .ok) :
    Builds out (call.build out) call.slaveAddress call.wire := by
  cases call with
  | readBits a f start quantity => exact builds_read (.inl ⟨rfl,rfl⟩) h
  | readRegisters a f start quantity => exact builds_read (.inr ⟨rfl,rfl⟩) h
  | writeSingleCoil a address value => exact builds_writeSingleCoil h
  | writeSingleRegister a address value => exact builds_writeSingleRegister h
  | maskWriteRegister a address andMask orMask => exact builds_maskWriteRegister h
  | writeMultipleCoils a start quantity values => exact builds_writeMultipleCoils h
  | writeMultipleRegisters a start quantity values => exact builds_writeMultipleRegisters h
  | readWriteMultipleRegisters a rs rq ws wq values => exact builds_readWriteMultipleRegisters h
  | readFileRecord a subrequests count => exact builds_readFileRecord h
  | writeFileRecord a subrequests count => exact builds_writeFileRecord h
  | readFifoQueue a pointer => exact builds_readFifoQueue h
  | mei a meiType data length => exact builds_mei h
  | readDeviceIdentification a code objectId => exact builds_readDeviceIdentification h
  | readExceptionStatus a => exact builds_status (by simp) h
  | getCommEventCounter a => exact builds_status (by simp) h
  | getCommEventLog a => exact builds_status (by simp) h
  | reportServerId a expected => exact builds_reportServerId h
  | diagnostics a subfunction data length => exact builds_diagnostics h

end Builders

end ModbusStack
