import ModbusStack.InBounds
import ModbusStack.MasterDecode

/-! Response validation reads nothing outside the original request, and the decoders nothing
outside the view that it returns. -/
set_option autoImplicit false

namespace ModbusStack
open ByteMemory

section Original
variable (request : Request) {original original' : Mem Byte} {len : Nat}
  (h : AgreeUpTo len original original')
include h

theorem scanWriteSubrequests_congr (dataEnd fuel offset count : Nat) (hend : dataEnd ≤ len) :
    scanWriteSubrequests original dataEnd fuel offset count =
      scanWriteSubrequests original' dataEnd fuel offset count := by
  induction fuel generalizing offset count with
  | zero => rfl
  | succ fuel ih =>
    simp only [scanWriteSubrequests]
    split
    · by_cases hroom : dataEnd-offset < 7
      · simp only [hroom,true_or,if_true]
      · rw [readSubrequest_congr h offset (by omega)]
        simp only [ih]
    · rfl

theorem scanReadSubrequests_congr (dataEnd fuel offset total count : Nat) (hend : dataEnd ≤ len)
    (hseven : (dataEnd-offset)%7 = 0) :
    scanReadSubrequests original dataEnd fuel offset total count =
      scanReadSubrequests original' dataEnd fuel offset total count := by
  induction fuel generalizing offset total count with
  | zero => rfl
  | succ fuel ih =>
    simp only [scanReadSubrequests]
    split
    · rw [readSubrequest_congr h offset (by omega),ih _ _ _ (by omega)]
    · rfl

theorem originalRequestAduIsValid_congr (hdescriptor : validateFunctionFields request = .ok) :
    originalRequestAduIsValid request (some original) len =
      originalRequestAduIsValid request (some original') len := by
  by_cases hlen : len < 4
  · simp only [originalRequestAduIsValid,hlen,true_or,if_true]
  · simp only [originalRequestAduIsValid,← mbCrc16_congr len h,← h 0 (by omega),← h 1 (by omega),
      ← h 2 (by omega),← h 3 (by omega),← h.readBe16_eq 2 (by omega)]
    split
    · rfl
    by_cases h15 : request.function = 0x15#8
    · simp only [h15,if_true,← scanWriteSubrequests_congr h (len-2) (len-2) 3 0 (by omega)]
    · simp only [h15,if_false]
      by_cases h14 : request.function = 0x14#8
      · have hseven : request.startAddress.toNat%7 = 0 := by
          simp only [validateFunctionFields,h14] at hdescriptor
          by_contra hne
          simp [hne] at hdescriptor
        simp only [h14,if_true]
        split
        · rfl
        rw [scanReadSubrequests_congr h (len-2) len 3 0 0 (by omega) (by omega)]
      · simp only [h14,if_false]
        by_cases h2b : request.function = 0x2B#8
        · simp only [h2b,if_true]
          by_cases h7 : len = 7
          · rw [h 4 (by omega)]
          · simp only [h7,false_and,decide_false]
        · simp only [h2b,if_false]
          by_cases h08 : request.function = 0x08#8
          · simp only [h08,if_true]
            split
            · rfl
            split
            · rfl
            have htwo : request.quantity = 2#16 := by
              rename_i hsub
              simp only [validateFunctionFields,h08] at hdescriptor
              by_contra hne
              simp [hsub,hne] at hdescriptor
            have hquantity : request.quantity.toNat = 2 := by rw [htwo]; rfl
            rw [h.readBe16_eq 4 (by omega)]
          · simp only [h08,if_false]

theorem matchSubresponses_original (adu : Mem Byte) (length n requestOffset responseOffset : Nat) :
    matchSubresponses original len adu length n requestOffset responseOffset =
      matchSubresponses original' len adu length n requestOffset responseOffset := by
  induction n generalizing requestOffset responseOffset with
  | zero => rfl
  | succ n ih =>
    unfold matchSubresponses
    split
    · rfl
    · rw [h.readBe16_eq (requestOffset+5) (by omega)]
      simp only [ih]

theorem checkNormalResponse_original (adu : Mem Byte) (length : Nat)
    (hdiagnostics : request.function = 0x08#8 → 6 ≤ len) :
    checkNormalResponse request original len adu length =
      checkNormalResponse request original' len adu length := by
  have hread : checkReadFileRecord request original len adu length =
      checkReadFileRecord request original' len adu length := by
    simp only [checkReadFileRecord,matchSubresponses_original h]
  have hwrite : checkWriteFileRecord request original len adu length =
      checkWriteFileRecord request original' len adu length := by
    simp only [checkWriteFileRecord,h.slice_eq 0 len (by omega)]
  by_cases h08 : request.function = 0x08#8
  · have hlen := hdiagnostics h08
    have hcheck : checkDiagnostics request original len adu length =
        checkDiagnostics request original' len adu length := by
      simp only [checkDiagnostics,h.slice_eq 0 len (by omega),h.slice_eq 4 2 (by omega)]
    simp only [checkNormalResponse,hread,hwrite,hcheck]
  · have hne : request.function.toNat ≠ 0x08 := fun hc => h08 (BitVec.eq_of_toNat_eq hc)
    unfold checkNormalResponse
    rw [hread,hwrite]
    split
    all_goals first
      | rfl
      | contradiction

end Original

theorem originalRequestAdu_diagnostics {request : Request} {original : Mem Byte} {len : Nat}
    (hvalid : originalRequestAduIsValid request (some original) len = true)
    (h08 : request.function = 0x08#8) : 6 ≤ len := by
  simp only [originalRequestAduIsValid,h08] at hvalid
  split at hvalid
  · cases hvalid
  · by_contra hlt
    have hne : len ≠ 6+request.quantity.toNat := by omega
    simp [hne] at hvalid

theorem descriptor_fields {request : Request} (h : validateRequestDescriptor request = .ok) :
    validateFunctionFields request = .ok := by
  simp only [validateRequestDescriptor] at h
  repeat' split at h
  all_goals first
    | exact h
    | cases h

theorem processResponse_inBounds (request : Request) (original : Option (Mem Byte))
    (original' : Mem Byte) (originalLength : Nat) {adu adu' : Mem Byte} (length : Nat)
    (horiginal : ∀ m, original = some m → AgreeUpTo originalLength m original')
    (h : AgreeUpTo length adu adu') :
    mbrtumProcessResponseWithRequestAdu request original originalLength (some adu) length =
      mbrtumProcessResponseWithRequestAdu request (original.map fun _ => original') originalLength
        (some adu') length := by
  rw [← mbrtumProcessResponseWithRequestAdu_congr request originalLength h]
  cases original with
  | none => rfl
  | some m =>
    have hm := horiginal m rfl
    simp only [mbrtumProcessResponseWithRequestAdu,Option.map_some,Option.getD_some]
    cases hd : validateRequestDescriptor request with
    | ok =>
      dsimp only
      rw [← originalRequestAduIsValid_congr request hm (descriptor_fields hd)]
      split
      · rfl
      · rename_i hneeded
        have hdiagnostics : request.function = 0x08#8 → 6 ≤ originalLength := by
          intro h08
          have hrequires : requiresRequestAdu request.function = true := by
            rw [h08]
            rfl
          simp only [hrequires,true_and,not_not] at hneeded
          exact originalRequestAdu_diagnostics hneeded h08
        unfold checkResponse
        rw [checkNormalResponse_original request hm adu length hdiagnostics]
    | _ => rfl

/-! The decoders. -/

section Views
variable (request : Request) (response : Response) {adu adu' : Mem Byte}
  (h : AgreeUpTo response.dataLength (response.bytes adu) (response.bytes adu'))
include h

theorem mbrtumGetBit_congr (index : Word) :
    mbrtumGetBit request response adu index = mbrtumGetBit request response adu' index := by
  by_cases hi : response.dataLength ≤ index.toNat/8
  · simp only [mbrtumGetBit,hi,if_true]
  · simp only [mbrtumGetBit,h _ (Nat.lt_of_not_le hi)]

theorem mbrtumGetRegister_congr (index : Word) :
    mbrtumGetRegister request response adu index =
      mbrtumGetRegister request response adu' index := by
  by_cases hi : response.dataLength ≤ index.toNat*2+1
  · simp only [mbrtumGetRegister,hi,if_true]
  · simp only [mbrtumGetRegister,h.readBe16_eq (index.toNat*2) (by omega)]

theorem mbrtumGetExceptionStatus_congr :
    mbrtumGetExceptionStatus response adu = mbrtumGetExceptionStatus response adu' := by
  by_cases hi : response.dataLength = 1
  · simp only [mbrtumGetExceptionStatus,h 0 (by omega)]
  · simp only [mbrtumGetExceptionStatus,ne_eq,hi,not_false_eq_true,or_true,if_true]

theorem bytes_readBe16 (k : Nat) (hk : k+2 ≤ response.dataLength) :
    readBe16 (adu.off (response.data.getD 0+k)) = readBe16 (adu'.off (response.data.getD 0+k)) := by
  have := h.readBe16_eq k hk
  simpa [Response.bytes,Nat.add_assoc] using this

theorem mbrtumGetDiagnosticsResponse_congr :
    mbrtumGetDiagnosticsResponse response adu = mbrtumGetDiagnosticsResponse response adu' := by
  by_cases hi : response.dataLength < 2
  · simp only [mbrtumGetDiagnosticsResponse,hi,true_or,or_true,if_true]
  · have hword : readBe16 (response.bytes adu) = readBe16 (response.bytes adu') :=
      h.readBe16_eq 0 (by omega)
    simp only [mbrtumGetDiagnosticsResponse,hword]

theorem mbrtumGetDiagnosticsWord_congr :
    mbrtumGetDiagnosticsWord response adu = mbrtumGetDiagnosticsWord response adu' := by
  simp only [mbrtumGetDiagnosticsWord,mbrtumGetDiagnosticsResponse_congr response h]
  cases hd : mbrtumGetDiagnosticsResponse response adu' with
  | error e => rfl
  | ok d =>
    simp only [mbrtumGetDiagnosticsResponse] at hd
    split at hd
    · cases hd
    obtain rfl := Except.ok.inj hd
    dsimp only
    by_cases hi : response.dataLength-2 < 2
    · simp only [hi,if_true]
    · rw [bytes_readBe16 response h 2 (by omega)]

theorem mbrtumGetCommEventCounter_congr :
    mbrtumGetCommEventCounter response adu = mbrtumGetCommEventCounter response adu' := by
  by_cases hi : response.dataLength = 4
  · have hword : readBe16 (response.bytes adu) = readBe16 (response.bytes adu') :=
      h.readBe16_eq 0 (by omega)
    simp only [mbrtumGetCommEventCounter,hword,h.readBe16_eq 2 (by omega)]
  · simp only [mbrtumGetCommEventCounter,ne_eq,hi,not_false_eq_true,or_true,if_true]

theorem mbrtumGetCommEventLog_congr :
    mbrtumGetCommEventLog response adu = mbrtumGetCommEventLog response adu' := by
  by_cases hi : response.dataLength < 6
  · simp only [mbrtumGetCommEventLog,hi,true_or,or_true,if_true]
  · have hword : readBe16 (response.bytes adu) = readBe16 (response.bytes adu') :=
      h.readBe16_eq 0 (by omega)
    simp only [mbrtumGetCommEventLog,hword,h.readBe16_eq 2 (by omega),h.readBe16_eq 4 (by omega)]

theorem decodeEvent_congr (index : Nat) :
    decodeEvent response adu index = decodeEvent response adu' index := by
  simp only [decodeEvent,mbrtumGetCommEventLog_congr response h]
  cases hl : mbrtumGetCommEventLog response adu' with
  | error e => rfl
  | ok eventLog =>
    simp only [mbrtumGetCommEventLog] at hl
    split at hl
    · cases hl
    obtain rfl := Except.ok.inj hl
    simp only [mbrtumGetDiagnosticEvent]
    split
    · rfl
    · rename_i hi
      have he := h (6+index) (by omega)
      simp only [Response.bytes,Mem.off_apply,← Nat.add_assoc] at he
      rw [he]

theorem mbrtumGetServerIdResponse_congr :
    mbrtumGetServerIdResponse request response adu =
      mbrtumGetServerIdResponse request response adu' := by
  by_cases hi : response.dataLength < request.quantity.toNat+1
  · simp only [mbrtumGetServerIdResponse,hi,true_or,or_true,if_true]
  · simp only [mbrtumGetServerIdResponse,h request.quantity.toNat (by omega)]

theorem mbrtumGetMeiResponse_congr :
    mbrtumGetMeiResponse response adu = mbrtumGetMeiResponse response adu' := by
  by_cases hi : response.dataLength < 1
  · simp only [mbrtumGetMeiResponse,hi,or_true,if_true]
  · simp only [mbrtumGetMeiResponse,h 0 (by omega)]

theorem mbrtumGetDeviceIdResponse_congr :
    mbrtumGetDeviceIdResponse response adu = mbrtumGetDeviceIdResponse response adu' := by
  by_cases hi : response.dataLength < 8
  · simp only [mbrtumGetDeviceIdResponse,hi,true_or,or_true,if_true]
  · simp only [mbrtumGetDeviceIdResponse,h 0 (by omega),h 1 (by omega),h 2 (by omega),
      h 3 (by omega),h 4 (by omega),h 5 (by omega)]

theorem mbrtumGetFifoResponse_congr :
    mbrtumGetFifoResponse response adu = mbrtumGetFifoResponse response adu' := by
  by_cases hi : response.dataLength < 2
  · simp only [mbrtumGetFifoResponse,hi,true_or,or_true,if_true]
  · have hword : readBe16 (response.bytes adu) = readBe16 (response.bytes adu') :=
      h.readBe16_eq 0 (by omega)
    simp only [mbrtumGetFifoResponse,hword]

theorem decodeFifoRegister_congr (index : Word) :
    decodeFifoRegister response adu index = decodeFifoRegister response adu' index := by
  simp only [decodeFifoRegister,mbrtumGetFifoResponse_congr response h]
  cases hf : mbrtumGetFifoResponse response adu' with
  | error e => rfl
  | ok fifo =>
    simp only [mbrtumGetFifoResponse] at hf
    split at hf
    · cases hf
    split at hf
    · cases hf
    split at hf
    · cases hf
    obtain rfl := Except.ok.inj hf
    simp only [mbrtumGetFifoRegister]
    split
    · rfl
    split
    · rfl
    rw [if_pos (by omega)]
    dsimp only
    rw [Nat.add_assoc,bytes_readBe16 response h (2+index.toNat*2) (by omega)]

omit h in
theorem subresponseIsBad_congr {view view' : Mem Byte} {length : Nat}
    (hv : AgreeUpTo length view view') (offset : Nat) :
    subresponseIsBad view length offset = subresponseIsBad view' length offset := by
  by_cases hi : length < offset+2
  · simp only [subresponseIsBad,hi,true_or]
  · simp only [subresponseIsBad,hv offset (by omega),hv (offset+1) (by omega)]

omit h in
theorem subresponse_room {view : Mem Byte} {length offset : Nat}
    (hgood : ¬ subresponseIsBad view length offset = true) :
    offset+2 ≤ length ∧ 3 ≤ (view offset).toNat ∧ (view offset).toNat%2 = 1 ∧
      view (offset+1) = 0x06#8 ∧ offset+(1+(view offset).toNat) ≤ length := by
  simp only [subresponseIsBad,decide_eq_true_eq,not_or,not_not] at hgood
  obtain ⟨hroom,hthree,hodd,htype,hend⟩ := hgood
  exact ⟨by omega,by omega,by omega,htype,by omega⟩

omit h in
theorem countSubresponses_congr {view view' : Mem Byte} {length : Nat}
    (hv : AgreeUpTo length view view') (fuel offset count : Nat) :
    countSubresponses view length fuel offset count =
      countSubresponses view' length fuel offset count := by
  induction fuel generalizing offset count with
  | zero => rfl
  | succ fuel ih =>
    simp only [countSubresponses]
    split
    · rename_i hlt
      rw [subresponseIsBad_congr hv,hv offset hlt,ih]
    · rfl

omit h in
theorem seekSubresponse_congr {view view' : Mem Byte} {length : Nat}
    (hv : AgreeUpTo length view view') (n offset : Nat) :
    seekSubresponse view length n offset = seekSubresponse view' length n offset := by
  induction n generalizing offset with
  | zero =>
    simp only [seekSubresponse]
    rw [subresponseIsBad_congr hv]
  | succ n ih =>
    simp only [seekSubresponse]
    rw [← subresponseIsBad_congr hv]
    split
    · rfl
    · rename_i hgood
      have := subresponse_room hgood
      rw [hv offset (by omega),ih]

omit h in
theorem seekSubresponse_room {view : Mem Byte} {length n offset place : Nat}
    (hs : seekSubresponse view length n offset = some place) :
    ¬ subresponseIsBad view length place = true := by
  induction n generalizing offset with
  | zero =>
    simp only [seekSubresponse] at hs
    split at hs
    · cases hs
    · rename_i hgood
      obtain rfl := Option.some.inj hs
      exact hgood
  | succ n ih =>
    simp only [seekSubresponse] at hs
    split at hs
    · cases hs
    · exact ih hs

theorem mbrtumGetFileRecordResponse_congr :
    mbrtumGetFileRecordResponse response adu = mbrtumGetFileRecordResponse response adu' := by
  simp only [mbrtumGetFileRecordResponse,countSubresponses_congr h]

omit h in
theorem fileRecordResponse_view {records : FileRecordResponse}
    (hr : mbrtumGetFileRecordResponse response adu = .ok records) :
    records.subresponses = some (response.data.getD 0) ∧
      records.subresponsesLength = response.dataLength := by
  simp only [mbrtumGetFileRecordResponse] at hr
  split at hr
  · cases hr
  rename_i hview
  split at hr
  · cases hr
  obtain rfl := Except.ok.inj hr
  cases hd : response.data with
  | none => simp [viewIsNot,hd] at hview
  | some start => exact ⟨rfl,rfl⟩

theorem decodeSubresponse_congr (index : Nat) :
    decodeSubresponse response adu index = decodeSubresponse response adu' index := by
  simp only [decodeSubresponse,mbrtumGetFileRecordResponse_congr response h]
  cases hr : mbrtumGetFileRecordResponse response adu' with
  | error e => rfl
  | ok records =>
    obtain ⟨hdata,hlength⟩ := fileRecordResponse_view response hr
    simp only [mbrtumGetFileRecordSubresponse,hdata,hlength]
    split
    · rfl
    have hseek := seekSubresponse_congr h index 0
    simp only [Response.bytes] at hseek
    rw [hseek]
    cases hs : seekSubresponse (adu'.off (response.data.getD 0)) response.dataLength index 0 with
    | none => rfl
    | some place =>
      obtain ⟨hroom,-⟩ := subresponse_room (seekSubresponse_room hs)
      have h0 := h place (by omega)
      have h1 := h (place+1) (by omega)
      simp only [Response.bytes,Mem.off_apply] at h0 h1
      dsimp only
      rw [h0,h1]

omit h in
theorem decodeSubresponse_view {index : Nat} {subresponse : FileRecordSubresponse}
    (hs : decodeSubresponse response adu index = .ok subresponse) :
    ∃ place, subresponse.recordData = some (response.data.getD 0+(place+2)) ∧
      place+2+2*subresponse.recordLength.toNat ≤ response.dataLength := by
  simp only [decodeSubresponse] at hs
  split at hs
  · cases hs
  rename_i records hr
  obtain ⟨hdata,hlength⟩ := fileRecordResponse_view response hr
  simp only [mbrtumGetFileRecordSubresponse,hdata,hlength] at hs
  split at hs
  · cases hs
  split at hs
  · cases hs
  rename_i place hplace
  obtain rfl := Except.ok.inj hs
  obtain ⟨hroom,hthree,hodd,-,hend⟩ := subresponse_room (seekSubresponse_room hplace)
  simp only [Mem.off_apply] at hthree hodd hend
  refine ⟨place,rfl,?_⟩
  dsimp only
  rw [BitVec.toNat_ofNat]
  omega

theorem decodeRecord_congr (index : Nat) (record : Word) :
    decodeRecord response adu index record = decodeRecord response adu' index record := by
  simp only [decodeRecord,decodeSubresponse_congr response h]
  cases hs : decodeSubresponse response adu' index with
  | error e => rfl
  | ok subresponse =>
    obtain ⟨place,hdata,hend⟩ := decodeSubresponse_view response hs
    simp only [mbrtumGetFileRecordRegister,hdata]
    split
    · rfl
    split
    · rfl
    rw [Nat.add_assoc (response.data.getD 0),
      bytes_readBe16 response h (place+2+record.toNat*2) (by omega)]

omit h in
theorem seekObject_congr {view view' : Mem Byte} {length : Nat} (hv : AgreeUpTo length view view')
    (n offset : Nat) : seekObject view length n offset = seekObject view' length n offset := by
  have hbad : ∀ offset, objectIsBad view length offset = objectIsBad view' length offset := by
    intro offset
    by_cases hi : length < offset+2
    · simp only [objectIsBad,hi,true_or]
    · simp only [objectIsBad,hv (offset+1) (by omega)]
  induction n generalizing offset with
  | zero => simp only [seekObject,hbad]
  | succ n ih =>
    simp only [seekObject]
    rw [← hbad]
    split
    · rfl
    · rename_i hgood
      simp only [objectIsBad,decide_eq_true_eq,not_or] at hgood
      rw [hv (offset+1) (by omega),ih]

omit h in
theorem seekObject_room {view : Mem Byte} {length n offset place : Nat}
    (hs : seekObject view length n offset = some place) : place+2 ≤ length := by
  induction n generalizing offset with
  | zero =>
    simp only [seekObject] at hs
    split at hs
    · cases hs
    · rename_i hgood
      obtain rfl := Option.some.inj hs
      simp only [objectIsBad,decide_eq_true_eq,not_or] at hgood
      omega
  | succ n ih =>
    simp only [seekObject] at hs
    split at hs
    · cases hs
    · exact ih hs

theorem decodeObject_congr (index : Nat) :
    decodeObject response adu index = decodeObject response adu' index := by
  simp only [decodeObject,mbrtumGetDeviceIdResponse_congr response h]
  cases hr : mbrtumGetDeviceIdResponse response adu' with
  | error e => rfl
  | ok identity =>
    simp only [mbrtumGetDeviceIdResponse] at hr
    split at hr
    · cases hr
    rename_i hview
    obtain rfl := Except.ok.inj hr
    simp only [mbrtumGetDeviceIdObject]
    split
    · rfl
    have hv : AgreeUpTo (response.dataLength-6) (adu.off (response.data.getD 0+6))
        (adu'.off (response.data.getD 0+6)) := by
      intro i hi
      have hb := h (6+i) (by omega)
      simpa [Response.bytes,Nat.add_assoc] using hb
    rw [seekObject_congr hv]
    cases hs : seekObject (adu'.off (response.data.getD 0+6)) (response.dataLength-6) index 0 with
    | none => rfl
    | some place =>
      have hroom := seekObject_room hs
      have h0 := hv place (by omega)
      have h1 := hv (place+1) (by omega)
      simp only [Mem.off_apply] at h0 h1
      dsimp only
      rw [h0,h1]

end Views

structure SameDecodings (request : Request) (response : Response) (adu adu' : Mem Byte) : Prop where
  bit : mbrtumGetBit request response adu = mbrtumGetBit request response adu'
  register : mbrtumGetRegister request response adu = mbrtumGetRegister request response adu'
  exceptionStatus : mbrtumGetExceptionStatus response adu = mbrtumGetExceptionStatus response adu'
  diagnostics : mbrtumGetDiagnosticsResponse response adu =
    mbrtumGetDiagnosticsResponse response adu'
  diagnosticsWord : mbrtumGetDiagnosticsWord response adu = mbrtumGetDiagnosticsWord response adu'
  commEventCounter : mbrtumGetCommEventCounter response adu =
    mbrtumGetCommEventCounter response adu'
  commEventLog : mbrtumGetCommEventLog response adu = mbrtumGetCommEventLog response adu'
  event : decodeEvent response adu = decodeEvent response adu'
  serverId : mbrtumGetServerIdResponse request response adu =
    mbrtumGetServerIdResponse request response adu'
  fileRecords : mbrtumGetFileRecordResponse response adu =
    mbrtumGetFileRecordResponse response adu'
  subresponse : decodeSubresponse response adu = decodeSubresponse response adu'
  record : decodeRecord response adu = decodeRecord response adu'
  fifo : mbrtumGetFifoResponse response adu = mbrtumGetFifoResponse response adu'
  fifoRegister : decodeFifoRegister response adu = decodeFifoRegister response adu'
  mei : mbrtumGetMeiResponse response adu = mbrtumGetMeiResponse response adu'
  deviceId : mbrtumGetDeviceIdResponse response adu = mbrtumGetDeviceIdResponse response adu'
  object : decodeObject response adu = decodeObject response adu'

theorem decoders_inBounds (request : Request) (response : Response) {adu adu' : Mem Byte}
    (h : AgreeUpTo response.dataLength (response.bytes adu) (response.bytes adu')) :
    SameDecodings request response adu adu' where
  bit := funext fun index => mbrtumGetBit_congr request response h index
  register := funext fun index => mbrtumGetRegister_congr request response h index
  exceptionStatus := mbrtumGetExceptionStatus_congr response h
  diagnostics := mbrtumGetDiagnosticsResponse_congr response h
  diagnosticsWord := mbrtumGetDiagnosticsWord_congr response h
  commEventCounter := mbrtumGetCommEventCounter_congr response h
  commEventLog := mbrtumGetCommEventLog_congr response h
  event := funext fun index => decodeEvent_congr response h index
  serverId := mbrtumGetServerIdResponse_congr request response h
  fileRecords := mbrtumGetFileRecordResponse_congr response h
  subresponse := funext fun index => decodeSubresponse_congr response h index
  record := funext fun index => funext fun record => decodeRecord_congr response h index record
  fifo := mbrtumGetFifoResponse_congr response h
  fifoRegister := funext fun index => decodeFifoRegister_congr response h index
  mei := mbrtumGetMeiResponse_congr response h
  deviceId := mbrtumGetDeviceIdResponse_congr response h
  object := funext fun index => decodeObject_congr response h index

end ModbusStack
