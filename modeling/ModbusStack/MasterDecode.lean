import ModbusStack.DeviceIdGrammar

/-! The decoders of the master, over the view that response validation returns. A pointer into
the response is an offset in its ADU, NULL is `none`. -/
set_option autoImplicit false

namespace ModbusStack
open ByteMemory

structure DiagnosticsResponse where
  subfunction : Word
  data : Nat
  dataLength : Nat
  deriving DecidableEq, Repr

structure CommEventLog where
  communicationStatus : Word
  eventCount : Word
  messageCount : Word
  events : Option Nat
  eventsLength : Nat
  deriving DecidableEq, Repr

structure ServerIdResponse where
  serverId : Nat
  serverIdLength : Nat
  runStatus : Byte
  additionalData : Option Nat
  additionalDataLength : Nat
  deriving DecidableEq, Repr

structure MeiResponse where
  meiType : Byte
  data : Nat
  dataLength : Nat
  deriving DecidableEq, Repr

structure DeviceIdResponse where
  readDeviceIdCode : Byte
  conformityLevel : Byte
  moreFollows : Byte
  nextObjectId : Byte
  objectCount : Byte
  objects : Option Nat
  objectsLength : Nat
  deriving DecidableEq, Repr

structure DeviceIdObjectView where
  objectId : Byte
  value : Nat
  valueLength : Nat
  deriving DecidableEq, Repr

structure FileRecordResponse where
  subresponseCount : Nat
  subresponses : Option Nat
  subresponsesLength : Nat
  deriving DecidableEq, Repr

structure FileRecordSubresponse where
  referenceType : Byte
  recordData : Option Nat
  recordDataLength : Nat
  recordLength : Word
  deriving DecidableEq, Repr

structure FifoResponse where
  fifoCount : Word
  values : Option Nat
  valuesLength : Nat
  deriving DecidableEq, Repr

section Decoders
variable (request : Request) (response : Response) (adu : Mem Byte)

/-- The checks that the decoders with a request share, up to the index. -/
def viewIsBad : Bool :=
  response.exceptionCode ≠ 0#8 ∨ response.function ≠ request.function ∨ response.data = none

def mbrtumGetBit (index : Word) : Except MasterResult Byte :=
  if request.function ≠ 0x01#8 ∧ request.function ≠ 0x02#8 then .error .errorFunction
  else if viewIsBad request response then .error .errorMalformedResponse
  else if request.quantity.toNat ≤ index.toNat then .error .errorIndex
  else if response.dataLength ≤ index.toNat/8 then .error .errorMalformedResponse
  else .ok ((response.bytes adu (index.toNat/8) >>> (index.toNat%8)) &&& 1#8)

def mbrtumGetRegister (index : Word) : Except MasterResult Word :=
  if request.function ≠ 0x03#8 ∧ request.function ≠ 0x04#8 ∧ request.function ≠ 0x17#8 then
    .error .errorFunction
  else if viewIsBad request response then .error .errorMalformedResponse
  else if request.quantity.toNat ≤ index.toNat then .error .errorIndex
  else if response.dataLength ≤ index.toNat*2+1 then .error .errorMalformedResponse
  else .ok (readBe16 ((response.bytes adu).off (index.toNat*2)))

/-- The checks of the decoders that know the function themselves. -/
def viewIsNot (function : Byte) : Bool :=
  response.function ≠ function ∨ response.exceptionCode ≠ 0#8 ∨ response.data = none

def mbrtumGetExceptionStatus : Except MasterResult Byte :=
  if viewIsNot response 0x07#8 ∨ response.dataLength ≠ 1 then .error .errorFunction
  else .ok (response.bytes adu 0)

def mbrtumGetDiagnosticsResponse : Except MasterResult DiagnosticsResponse :=
  if viewIsNot response 0x08#8 ∨ response.dataLength < 2 ∨ response.dataLength%2 ≠ 0 then
    .error .errorFunction
  else .ok ⟨readBe16 (response.bytes adu),response.data.getD 0+2,response.dataLength-2⟩

def mbrtumGetDiagnosticsWord : Except MasterResult (Word × Word) :=
  match mbrtumGetDiagnosticsResponse response adu with
  | .error e => .error e
  | .ok d =>
    if d.dataLength < 2 then .error .errorMalformedResponse
    else .ok (d.subfunction,readBe16 (adu.off d.data))

def mbrtumGetCommEventCounter : Except MasterResult (Word × Word) :=
  if viewIsNot response 0x0B#8 ∨ response.dataLength ≠ 4 then .error .errorFunction
  else .ok (readBe16 (response.bytes adu),readBe16 ((response.bytes adu).off 2))

def mbrtumGetCommEventLog : Except MasterResult CommEventLog :=
  if viewIsNot response 0x0C#8 ∨ response.dataLength < 6 ∨ 70 < response.dataLength then
    .error .errorFunction
  else .ok ⟨readBe16 (response.bytes adu),readBe16 ((response.bytes adu).off 2),
    readBe16 ((response.bytes adu).off 4),some (response.data.getD 0+6),response.dataLength-6⟩

def mbrtumGetDiagnosticEvent (eventLog : CommEventLog) (index : Nat) : Except MasterResult Byte :=
  match eventLog.events with
  | none => .error .errorIndex
  | some events =>
    if eventLog.eventsLength ≤ index then .error .errorIndex else .ok (adu (events+index))

def mbrtumGetServerIdResponse : Except MasterResult ServerIdResponse :=
  let serverIdLength := request.quantity.toNat
  if request.function ≠ 0x11#8 ∨ serverIdLength = 0 ∨ 250 < serverIdLength ∨
      viewIsNot response 0x11#8 ∨ response.dataLength < serverIdLength+1 ∨
      251 < response.dataLength ∨ (response.bytes adu serverIdLength ≠ 0x00#8 ∧
        response.bytes adu serverIdLength ≠ 0xFF#8) then .error .errorFunction
  else .ok ⟨response.data.getD 0,serverIdLength,response.bytes adu serverIdLength,
    if 0 < response.dataLength-serverIdLength-1 then some (response.data.getD 0+(serverIdLength+1))
    else none,response.dataLength-serverIdLength-1⟩

/-- The tests of one sub-response in `length` bytes; the two loops make the same. -/
def subresponseIsBad (view : Mem Byte) (length offset : Nat) : Bool :=
  length < offset+2 ∨ (view offset).toNat < 3 ∨ (view offset).toNat%2 = 0 ∨
    view (offset+1) ≠ 0x06#8 ∨ length-offset < 1+(view offset).toNat

/-- The counting loop of `mbrtum_get_file_record_response`. -/
def countSubresponses (view : Mem Byte) (length : Nat) : (fuel offset count : Nat) → Option Nat
  | 0, _, count => some count
  | fuel+1, offset, count =>
    if offset < length then
      if subresponseIsBad view length offset then none
      else countSubresponses view length fuel (offset+(1+(view offset).toNat)) (count+1)
    else some count

def mbrtumGetFileRecordResponse : Except MasterResult FileRecordResponse :=
  if viewIsNot response 0x14#8 ∨ response.dataLength < 4 ∨ 245 < response.dataLength then
    .error .errorMalformedResponse
  else
    match countSubresponses (response.bytes adu) response.dataLength response.dataLength 0 0 with
    | none => .error .errorMalformedResponse
    | some count => .ok ⟨count,response.data,response.dataLength⟩

/-- The search loop of `mbrtum_get_file_record_subresponse`: the offset after `n` sub-responses,
when there is one more. -/
def seekSubresponse (view : Mem Byte) (length : Nat) : (n offset : Nat) → Option Nat
  | 0, offset => if subresponseIsBad view length offset then none else some offset
  | n+1, offset =>
    if subresponseIsBad view length offset then none
    else seekSubresponse view length n (offset+(1+(view offset).toNat))

def mbrtumGetFileRecordSubresponse (records : FileRecordResponse) (index : Nat) :
    Except MasterResult FileRecordSubresponse :=
  match records.subresponses with
  | none => .error .errorIndex
  | some data =>
    if records.subresponseCount ≤ index then .error .errorIndex
    else
      match seekSubresponse (adu.off data) records.subresponsesLength index 0 with
      | none => .error .errorMalformedResponse
      | some offset =>
        let recordDataLength := (adu (data+offset)).toNat-1
        .ok ⟨adu (data+(offset+1)),some (data+(offset+2)),recordDataLength,
          BitVec.ofNat 16 (recordDataLength/2)⟩

def mbrtumGetFileRecordRegister (subresponse : FileRecordSubresponse) (index : Word) :
    Except MasterResult Word :=
  match subresponse.recordData with
  | none => .error .errorMalformedResponse
  | some data =>
    if subresponse.referenceType ≠ 0x06#8 ∨
        subresponse.recordDataLength ≠ subresponse.recordLength.toNat*2 then
      .error .errorMalformedResponse
    else if subresponse.recordLength.toNat ≤ index.toNat then .error .errorIndex
    else .ok (readBe16 (adu.off (data+index.toNat*2)))

def mbrtumGetFifoResponse : Except MasterResult FifoResponse :=
  if viewIsNot response 0x18#8 ∨ response.dataLength < 2 ∨ 64 < response.dataLength then
    .error .errorMalformedResponse
  else
    let fifoCount := readBe16 (response.bytes adu)
    if 31 < fifoCount.toNat then .error .errorMalformedResponse
    else if response.dataLength ≠ 2+fifoCount.toNat*2 then .error .errorMalformedResponse
    else .ok ⟨fifoCount,if 0 < fifoCount.toNat*2 then some (response.data.getD 0+2) else none,
      fifoCount.toNat*2⟩

def mbrtumGetFifoRegister (fifo : FifoResponse) (index : Word) : Except MasterResult Word :=
  if 31 < fifo.fifoCount.toNat ∨ fifo.valuesLength ≠ fifo.fifoCount.toNat*2 then
    .error .errorMalformedResponse
  else if fifo.fifoCount.toNat ≤ index.toNat then .error .errorIndex
  else
    match fifo.values with
    | none => .error .errorMalformedResponse
    | some values => .ok (readBe16 (adu.off (values+index.toNat*2)))

def mbrtumGetMeiResponse : Except MasterResult MeiResponse :=
  if viewIsNot response 0x2B#8 ∨ response.dataLength < 1 then .error .errorFunction
  else .ok ⟨response.bytes adu 0,response.data.getD 0+1,response.dataLength-1⟩

def mbrtumGetDeviceIdResponse : Except MasterResult DeviceIdResponse :=
  if viewIsNot response 0x2B#8 ∨ response.dataLength < 8 ∨ response.bytes adu 0 ≠ 0x0E#8 then
    .error .errorMalformedResponse
  else .ok ⟨response.bytes adu 1,response.bytes adu 2,response.bytes adu 3,response.bytes adu 4,
    response.bytes adu 5,some (response.data.getD 0+6),response.dataLength-6⟩

/-- The tests of one object in `length` bytes. -/
def objectIsBad (view : Mem Byte) (length offset : Nat) : Bool :=
  length < offset+2 ∨ length < offset+2+(view (offset+1)).toNat

/-- The search loop of `mbrtum_get_device_id_object`. -/
def seekObject (view : Mem Byte) (length : Nat) : (n offset : Nat) → Option Nat
  | 0, offset => if objectIsBad view length offset then none else some offset
  | n+1, offset =>
    if objectIsBad view length offset then none
    else seekObject view length n (offset+(2+(view (offset+1)).toNat))

def mbrtumGetDeviceIdObject (identity : DeviceIdResponse) (index : Nat) :
    Except MasterResult DeviceIdObjectView :=
  match identity.objects with
  | none => .error .errorIndex
  | some objects =>
    if identity.objectCount.toNat ≤ index then .error .errorIndex
    else
      match seekObject (adu.off objects) identity.objectsLength index 0 with
      | none => .error .errorMalformedResponse
      | some offset =>
        .ok ⟨adu (objects+offset),objects+(offset+2),(adu (objects+(offset+1))).toNat⟩

/-! What a caller gets who starts from the view each time. -/

def decodeEvent (index : Nat) : Except MasterResult Byte :=
  match mbrtumGetCommEventLog response adu with
  | .error e => .error e
  | .ok eventLog => mbrtumGetDiagnosticEvent adu eventLog index

def decodeSubresponse (index : Nat) : Except MasterResult FileRecordSubresponse :=
  match mbrtumGetFileRecordResponse response adu with
  | .error e => .error e
  | .ok records => mbrtumGetFileRecordSubresponse adu records index

def decodeRecord (index : Nat) (record : Word) : Except MasterResult Word :=
  match decodeSubresponse response adu index with
  | .error e => .error e
  | .ok subresponse => mbrtumGetFileRecordRegister adu subresponse record

def decodeFifoRegister (index : Word) : Except MasterResult Word :=
  match mbrtumGetFifoResponse response adu with
  | .error e => .error e
  | .ok fifo => mbrtumGetFifoRegister adu fifo index

def decodeObject (index : Nat) : Except MasterResult DeviceIdObjectView :=
  match mbrtumGetDeviceIdResponse response adu with
  | .error e => .error e
  | .ok identity => mbrtumGetDeviceIdObject adu identity index

end Decoders

/-! The two search loops on encoded lists. -/

section Loops
variable {view : Mem Byte} {length : Nat}

def encodeSubresponse (words : List Word) : List Byte :=
  [BitVec.ofNat 8 (1+2*words.length),0x06#8] ++ encodeWords words

@[simp] theorem encodeSubresponse_length (words : List Word) :
    (encodeSubresponse words).length = 2+2*words.length := by
  simp [encodeSubresponse]
  omega

theorem subresponse_stored {offset : Nat} {words : List Word}
    (h : Stored view offset (encodeSubresponse words)) (hsize : words.length < 128) :
    (view offset).toNat = 1+2*words.length ∧ view (offset+1) = 0x06#8 ∧
      Stored view (offset+2) (encodeWords words) := by
  simp only [encodeSubresponse,List.cons_append,List.nil_append,stored_cons] at h
  refine ⟨?_,h.2.1,h.2.2⟩
  rw [h.1,BitVec.toNat_ofNat]
  omega

theorem subresponseIsGood {offset : Nat} {words : List Word}
    (h : Stored view offset (encodeSubresponse words)) (hsize : words.length < 128)
    (hpos : words ≠ []) (hend : offset+(2+2*words.length) ≤ length) :
    subresponseIsBad view length offset = false := by
  obtain ⟨h0,h1,-⟩ := subresponse_stored h hsize
  have := List.length_pos_iff.mpr hpos
  simp only [subresponseIsBad,decide_eq_false_iff_not,h0,h1,ne_eq,not_true_eq_false,false_or]
  omega

structure SubresponsesAt (view : Mem Byte) (length offset : Nat) (records : List (List Word)) :
    Prop where
  stored : Stored view offset (records.flatMap encodeSubresponse)
  exact : length = offset+(records.flatMap encodeSubresponse).length
  sizes : ∀ words ∈ records, words ≠ [] ∧ words.length < 128

theorem SubresponsesAt.cons {offset : Nat} {words : List Word} {records : List (List Word)}
    (h : SubresponsesAt view length offset (words :: records)) :
    subresponseIsBad view length offset = false ∧ (view offset).toNat = 1+2*words.length ∧
      view (offset+1) = 0x06#8 ∧ Stored view (offset+2) (encodeWords words) ∧
      SubresponsesAt view length (offset+(2+2*words.length)) records := by
  obtain ⟨hs,hlen,hsizes⟩ := h
  rw [List.flatMap_cons,stored_append,encodeSubresponse_length] at hs
  rw [List.flatMap_cons,List.length_append,encodeSubresponse_length] at hlen
  obtain ⟨hpos,hsize⟩ := hsizes words (by simp)
  obtain ⟨h0,h1,h2⟩ := subresponse_stored hs.1 hsize
  exact ⟨subresponseIsGood hs.1 hsize hpos (by omega),h0,h1,h2,hs.2,by omega,
    fun w hw => hsizes w (by simp [hw])⟩

theorem countSubresponses_eq {records : List (List Word)} {fuel offset : Nat}
    (h : SubresponsesAt view length offset records) (hfuel : records.length ≤ fuel) (count : Nat) :
    countSubresponses view length fuel offset count = some (count+records.length) := by
  induction records generalizing fuel offset count with
  | nil =>
    have hlen := h.exact
    simp only [List.flatMap_nil,List.length_nil,Nat.add_zero] at hlen
    cases fuel with
    | zero => rfl
    | succ fuel =>
      rw [countSubresponses,if_neg (by omega)]
      rfl
  | cons words records ih =>
    rw [List.length_cons] at hfuel
    obtain ⟨fuel,rfl⟩ := Nat.exists_eq_succ_of_ne_zero (show fuel ≠ 0 by omega)
    obtain ⟨hgood,h0,-,-,hrest⟩ := h.cons
    have hlen := hrest.exact
    have hnext : offset+(1+(view offset).toNat) = offset+(2+2*words.length) := by omega
    rw [countSubresponses,if_pos (by omega),hgood,if_neg (by simp),hnext,ih hrest (by omega),
      List.length_cons]
    congr 1
    omega

theorem seekSubresponse_eq {records : List (List Word)} {i offset : Nat} {words : List Word}
    (h : SubresponsesAt view length offset records) (hi : records[i]? = some words) :
    ∃ place, seekSubresponse view length i offset = some place ∧ offset ≤ place ∧
      place+(2+2*words.length) ≤ length ∧ (view place).toNat = 1+2*words.length ∧
      view (place+1) = 0x06#8 ∧ Stored view (place+2) (encodeWords words) := by
  induction records generalizing i offset with
  | nil => simp at hi
  | cons w records ih =>
    obtain ⟨hgood,h0,h1,h2,hrest⟩ := h.cons
    cases i with
    | zero =>
      obtain rfl : w = words := by simpa using hi
      have hlen := hrest.exact
      refine ⟨offset,?_,le_refl _,by omega,h0,h1,h2⟩
      rw [seekSubresponse,hgood,if_neg (by simp)]
    | succ i =>
      obtain ⟨place,hseek,hle,hrest⟩ := ih hrest (by simpa using hi)
      refine ⟨place,?_,by omega,hrest⟩
      have hnext : offset+(1+(view offset).toNat) = offset+(2+2*w.length) := by omega
      rw [seekSubresponse,hgood,if_neg (by simp),hnext,hseek]

structure ObjectsAt (view : Mem Byte) (length offset : Nat) (objects : List IdentityObject) :
    Prop where
  stored : Stored view offset (objects.flatMap IdentityObject.encode)
  exact : length = offset+(objects.flatMap IdentityObject.encode).length
  sizes : ∀ o ∈ objects, o.value.length < 256

theorem ObjectsAt.cons {offset : Nat} {o : IdentityObject} {objects : List IdentityObject}
    (h : ObjectsAt view length offset (o :: objects)) :
    objectIsBad view length offset = false ∧ view offset = o.objectId ∧
      (view (offset+1)).toNat = o.value.length ∧ Stored view (offset+2) o.value ∧
      ObjectsAt view length (offset+(2+o.value.length)) objects := by
  obtain ⟨hs,hlen,hsizes⟩ := h
  rw [List.flatMap_cons,stored_append,o.encode_length] at hs
  rw [List.flatMap_cons,List.length_append,o.encode_length] at hlen
  have hsize := hsizes o (by simp)
  obtain ⟨ho,hos⟩ := hs
  simp only [IdentityObject.encode,stored_cons] at ho
  obtain ⟨hid,hcount,hvalue⟩ := ho
  have hlength : (view (offset+1)).toNat = o.value.length := by
    rw [hcount,BitVec.toNat_ofNat]
    omega
  refine ⟨?_,hid,hlength,hvalue,hos,by omega,fun x hx => hsizes x (by simp [hx])⟩
  simp only [objectIsBad,decide_eq_false_iff_not,hlength]
  omega

theorem seekObject_eq {objects : List IdentityObject} {i offset : Nat} {o : IdentityObject}
    (h : ObjectsAt view length offset objects) (hi : objects[i]? = some o) :
    ∃ place, seekObject view length i offset = some place ∧
      place = offset+((objects.take i).flatMap IdentityObject.encode).length ∧
      place+(2+o.value.length) ≤ length ∧ view place = o.objectId ∧
      (view (place+1)).toNat = o.value.length ∧ Stored view (place+2) o.value := by
  induction objects generalizing i offset with
  | nil => simp at hi
  | cons p objects ih =>
    obtain ⟨hgood,h0,h1,h2,hrest⟩ := h.cons
    cases i with
    | zero =>
      obtain rfl : p = o := by simpa using hi
      have hlen := hrest.exact
      refine ⟨offset,?_,by simp,by omega,h0,h1,h2⟩
      rw [seekObject,hgood,if_neg (by simp)]
    | succ i =>
      obtain ⟨place,hseek,hat,hrest⟩ := ih hrest (by simpa using hi)
      refine ⟨place,?_,?_,hrest⟩
      · rw [seekObject,hgood,if_neg (by simp),h1,hseek]
      · rw [hat,List.take_succ_cons,List.flatMap_cons,List.length_append,p.encode_length]
        omega

end Loops

end ModbusStack
