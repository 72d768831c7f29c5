import ModbusStack.Pdu
import ModbusStack.MasterResponse

/-! Request processing reads nothing outside the request, and response validation nothing
outside the response: two buffers that agree on the given length are treated alike. -/
set_option autoImplicit false

namespace ModbusStack
open ByteMemory

def AgreeUpTo (len : Nat) (m m' : Mem Byte) : Prop := ∀ i, i < len → m i = m' i

theorem AgreeUpTo.off {len : Nat} {m m' : Mem Byte} (h : AgreeUpTo len m m') (k n : Nat)
    (hk : k+n ≤ len) : AgreeUpTo n (m.off k) (m'.off k) := fun i hi => h (k+i) (by omega)

theorem AgreeUpTo.slice_eq {len : Nat} {m m' : Mem Byte} (h : AgreeUpTo len m m') (k n : Nat)
    (hk : k+n ≤ len) : slice m k n = slice m' k n := slice_congr fun i _ => h (k+i) (by omega)

theorem AgreeUpTo.readBe16_eq {len : Nat} {m m' : Mem Byte} (h : AgreeUpTo len m m') (k : Nat)
    (hk : k+2 ≤ len) : readBe16 (m.off k) = readBe16 (m'.off k) := by
  rw [readBe16_off,readBe16_off,h k (by omega),h (k+1) (by omega)]

theorem agreeUpTo_ofList_slice (m : Mem Byte) (len : Nat) :
    AgreeUpTo len m (ofList (slice m 0 len)) := by
  intro i hi
  simp only [ofList,slice_getD,hi,if_true,Nat.zero_add]

section Handlers
variable (cfg : Platform) (s : Server) {pdu pdu' : Mem Byte} {len : Nat} (capacity : Nat)
  (h : AgreeUpTo len pdu pdu')
include h

theorem readBits_congr (function : Byte) (limit : Nat) (get : DataModel → Word → Byte) :
    readBits s function limit get pdu len capacity =
      readBits s function limit get pdu' len capacity := by
  by_cases hl : len = 5
  · simp only [readBits,h.readBe16_eq 1 (by omega),h.readBe16_eq 3 (by omega)]
  · simp only [readBits,ne_eq,hl,not_false_eq_true,if_true]

theorem readRegisters_congr (function : Byte) (limit : Nat) (get : DataModel → Word → Word) :
    readRegisters s function limit get pdu len capacity =
      readRegisters s function limit get pdu' len capacity := by
  by_cases hl : len = 5
  · simp only [readRegisters,h.readBe16_eq 1 (by omega),h.readBe16_eq 3 (by omega)]
  · simp only [readRegisters,ne_eq,hl,not_false_eq_true,if_true]

theorem writeSingleCoil_congr :
    writeSingleCoil cfg s pdu len capacity = writeSingleCoil cfg s pdu' len capacity := by
  by_cases hl : len = 5
  · simp only [writeSingleCoil,h.readBe16_eq 1 (by omega),h.readBe16_eq 3 (by omega),
      h.slice_eq 0 5 (by omega)]
  · simp only [writeSingleCoil,ne_eq,hl,not_false_eq_true,if_true]

theorem writeSingleRegister_congr :
    writeSingleRegister cfg s pdu len capacity = writeSingleRegister cfg s pdu' len capacity := by
  by_cases hl : len = 5
  · simp only [writeSingleRegister,h.readBe16_eq 1 (by omega),h.readBe16_eq 3 (by omega),
      h.slice_eq 0 5 (by omega)]
  · simp only [writeSingleRegister,ne_eq,hl,not_false_eq_true,if_true]

theorem maskWriteRegister_congr :
    maskWriteRegister cfg s pdu len capacity = maskWriteRegister cfg s pdu' len capacity := by
  by_cases hl : len = 7
  · simp only [maskWriteRegister,h.readBe16_eq 1 (by omega),h.readBe16_eq 3 (by omega),
      h.readBe16_eq 5 (by omega),h.slice_eq 0 7 (by omega)]
  · simp only [maskWriteRegister,ne_eq,hl,not_false_eq_true,if_true]

omit h in
theorem setCoils_congr (address : Word) (bit bit' : Nat → Byte) (n i : Nat) (t : Server)
    (hb : ∀ j, i ≤ j → j < i+n → bit j = bit' j) :
    setCoils cfg address bit n i t = setCoils cfg address bit' n i t := by
  induction n generalizing i t with
  | zero => rfl
  | succ n ih =>
    simp only [setCoils]
    rw [hb i (by omega) (by omega)]
    exact ih _ _ fun j h1 h2 => hb j (by omega) (by omega)

omit h in
theorem setHregs_congr (address : Word) (value value' : Nat → Word) (n i : Nat) (t : Server)
    (hv : ∀ j, i ≤ j → j < i+n → value j = value' j) :
    setHregs cfg address value n i t = setHregs cfg address value' n i t := by
  induction n generalizing i t with
  | zero => rfl
  | succ n ih =>
    simp only [setHregs]
    rw [hv i (by omega) (by omega)]
    exact ih _ _ fun j h1 h2 => hv j (by omega) (by omega)

theorem writeMultipleCoils_congr :
    writeMultipleCoils cfg s pdu len capacity = writeMultipleCoils cfg s pdu' len capacity := by
  by_cases hl : len < 6
  · simp only [writeMultipleCoils,hl,if_true]
  · simp only [writeMultipleCoils,hl,if_false,← h.readBe16_eq 1 (by omega),
      ← h.readBe16_eq 3 (by omega),← h 5 (by omega)]
    split
    · rfl
    split
    · rfl
    split
    · rfl
    split
    · rfl
    rename_i hbytes _
    congr 1
    apply setCoils_congr
    intro j _ hj
    rw [h (6+j/8) (by omega)]

theorem writeMultipleRegisters_congr :
    writeMultipleRegisters cfg s pdu len capacity =
      writeMultipleRegisters cfg s pdu' len capacity := by
  by_cases hl : len < 6
  · simp only [writeMultipleRegisters,hl,if_true]
  · simp only [writeMultipleRegisters,hl,if_false,← h.readBe16_eq 1 (by omega),
      ← h.readBe16_eq 3 (by omega),← h 5 (by omega)]
    split
    · rfl
    split
    · rfl
    split
    · rfl
    split
    · rfl
    rename_i hbytes _
    congr 1
    apply setHregs_congr
    intro j _ hj
    exact h.readBe16_eq (6+2*j) (by omega)

theorem readWriteMultipleRegisters_congr :
    readWriteMultipleRegisters cfg s pdu len capacity =
      readWriteMultipleRegisters cfg s pdu' len capacity := by
  by_cases hl : len < 10
  · simp only [readWriteMultipleRegisters,hl,if_true]
  · simp only [readWriteMultipleRegisters,hl,if_false,← h.readBe16_eq 1 (by omega),
      ← h.readBe16_eq 3 (by omega),← h.readBe16_eq 5 (by omega),← h.readBe16_eq 7 (by omega),
      ← h 9 (by omega)]
    split
    · rfl
    split
    · rfl
    split
    · rfl
    split
    · rfl
    rename_i hbytes _
    have hset := setHregs_congr cfg (readBe16 (pdu.off 5)) (fun i => readBe16 (pdu.off (10+i*2)))
      (fun i => readBe16 (pdu'.off (10+i*2))) (readBe16 (pdu.off 7)).toNat 0 s fun j _ hj =>
        h.readBe16_eq (10+j*2) (by omega)
    rw [hset]

theorem readSubrequest_congr (offset : Nat) (ho : offset+7 ≤ len) :
    readSubrequest pdu offset = readSubrequest pdu' offset := by
  simp only [readSubrequest]
  rw [h offset (by omega),h (offset+1) (by omega),h (offset+2) (by omega),h (offset+3) (by omega),
    h (offset+4) (by omega),h (offset+5) (by omega),h (offset+6) (by omega)]

theorem validateReadSubrequests_congr (st : FileRecordState) (fuel offset total : Nat)
    (hseven : (len-offset)%7 = 0) :
    validateReadSubrequests st pdu len fuel offset total =
      validateReadSubrequests st pdu' len fuel offset total := by
  induction fuel generalizing offset total with
  | zero => rfl
  | succ fuel ih =>
    simp only [validateReadSubrequests]
    split
    · rw [readSubrequest_congr h offset (by omega),ih _ _ (by omega)]
    · rfl

theorem emitReadSubresponses_congr (d : DataModel) (fuel offset : Nat)
    (hseven : (len-offset)%7 = 0) :
    emitReadSubresponses d pdu len fuel offset = emitReadSubresponses d pdu' len fuel offset := by
  induction fuel generalizing offset with
  | zero => rfl
  | succ fuel ih =>
    simp only [emitReadSubresponses]
    split
    · rw [readSubrequest_congr h offset (by omega),ih _ (by omega)]
    · rfl

theorem mbFileRecordProcessReadRequest_congr :
    mbFileRecordProcessReadRequest s pdu len capacity =
      mbFileRecordProcessReadRequest s pdu' len capacity := by
  by_cases hl : len < 2
  · simp only [mbFileRecordProcessReadRequest,hl,if_true]
  · simp only [mbFileRecordProcessReadRequest,hl,if_false,← h 1 (by omega)]
    split
    · rfl
    · rw [validateReadSubrequests_congr h _ _ _ _ (by omega),
        emitReadSubresponses_congr h _ _ _ (by omega)]

theorem validateWriteSubrequests_congr (st : FileRecordState) (fuel offset count : Nat) :
    validateWriteSubrequests st pdu len fuel offset count =
      validateWriteSubrequests st pdu' len fuel offset count := by
  induction fuel generalizing offset count with
  | zero => rfl
  | succ fuel ih =>
    simp only [validateWriteSubrequests]
    split
    · split
      · rfl
      · rw [readSubrequest_congr h offset (by omega)]
        simp only [ih]
    · rfl

theorem writeRecords_congr (base dataOffset n i : Nat) (t : Server)
    (hn : dataOffset+(i+n)*2 ≤ len) :
    writeRecords base pdu dataOffset n i t = writeRecords base pdu' dataOffset n i t := by
  induction n generalizing i t with
  | zero => rfl
  | succ n ih =>
    simp only [writeRecords]
    rw [h (dataOffset+i*2) (by omega),h (dataOffset+i*2+1) (by omega)]
    exact ih _ _ (by omega)

/-- The write pass stays where the validation pass has been. -/
theorem applyWriteSubrequests_congr (st : FileRecordState) (fuel offset count : Nat)
    (r : Nat × Nat) (hv : validateWriteSubrequests st pdu len fuel offset count = .ok r)
    (t : Server) :
    applyWriteSubrequests pdu len fuel offset t = applyWriteSubrequests pdu' len fuel offset t := by
  induction fuel generalizing offset count t with
  | zero => rfl
  | succ fuel ih =>
    simp only [validateWriteSubrequests] at hv
    simp only [applyWriteSubrequests]
    split
    · rename_i ho
      simp only [ho,if_true] at hv
      repeat' split at hv
      all_goals try cases hv
      rename_i hroom _ _ _ hlen _ _
      rw [← readSubrequest_congr h offset (by omega)]
      have hnext := fun t' => ih (offset+(7+(readSubrequest pdu offset).recordLength.toNat*2))
        (count+1) hv t'
      rw [← Nat.add_assoc] at hnext
      cases findFileRecordUnlocked t.data.fileRecord (readSubrequest pdu offset).fileNumber with
      | none => exact hnext t
      | some file =>
        simp only
        rw [writeRecords_congr h _ _ _ _ _ (by omega)]
        exact hnext _
    · rfl

theorem mbFileRecordProcessWriteRequest_congr :
    mbFileRecordProcessWriteRequest s pdu len capacity =
      mbFileRecordProcessWriteRequest s pdu' len capacity := by
  by_cases hl : len < 2
  · simp only [mbFileRecordProcessWriteRequest,hl,if_true]
  · simp only [mbFileRecordProcessWriteRequest,hl,if_false,← h 1 (by omega),
      ← h.slice_eq 0 len (by omega),← validateWriteSubrequests_congr h]
    split
    · rfl
    cases hv : validateWriteSubrequests (s.emit .lock).data.fileRecord pdu len len 2 0 with
    | error e => rfl
    | ok r =>
      simp only
      rw [applyWriteSubrequests_congr h _ _ _ _ r hv]

theorem mbFifoProcessReadRequest_congr :
    mbFifoProcessReadRequest s pdu len capacity = mbFifoProcessReadRequest s pdu' len capacity := by
  by_cases hl : len = 3
  · simp only [mbFifoProcessReadRequest,h 1 (by omega),h 2 (by omega)]
  · simp only [mbFifoProcessReadRequest,ne_eq,hl,not_false_eq_true,if_true]

theorem mbMeiProcessRequest_congr :
    mbMeiProcessRequest cfg s pdu len capacity = mbMeiProcessRequest cfg s pdu' len capacity := by
  by_cases hl : len < 2
  · simp only [mbMeiProcessRequest,hl,true_or,if_true]
  · simp only [mbMeiProcessRequest,← h 0 (by omega),← h 1 (by omega),
      ← h.slice_eq 2 (len-2) (by omega)]
    by_cases h4 : len = 4
    · simp only [h 2 (by omega),h 3 (by omega)]
    · simp only [ne_eq,h4,not_false_eq_true,if_true]

theorem processPduFunction_congr :
    processPduFunction cfg s pdu len capacity = processPduFunction cfg s pdu' len capacity := by
  by_cases hl : len = 0
  · simp only [processPduFunction,hl,if_true]
  · simp only [processPduFunction,← h 0 (by omega),readBits_congr s capacity h,
      readRegisters_congr s capacity h,writeSingleCoil_congr cfg s capacity h,
      writeSingleRegister_congr cfg s capacity h,writeMultipleCoils_congr cfg s capacity h,
      writeMultipleRegisters_congr cfg s capacity h,maskWriteRegister_congr cfg s capacity h,
      readWriteMultipleRegisters_congr cfg s capacity h,
      mbFileRecordProcessReadRequest_congr s capacity h,
      mbFileRecordProcessWriteRequest_congr s capacity h,mbFifoProcessReadRequest_congr s capacity h,
      mbMeiProcessRequest_congr cfg s capacity h]

theorem mbProcessPdu_congr :
    mbProcessPdu cfg s pdu len capacity = mbProcessPdu cfg s pdu' len capacity := by
  by_cases hl : len = 0
  · simp only [mbProcessPdu,hl,true_or,if_true]
  · simp only [mbProcessPdu,← h 0 (by omega),processPduFunction_congr cfg s capacity h]

theorem mbtcpProcessAdu_congr :
    mbtcpProcessAdu cfg s pdu len capacity = mbtcpProcessAdu cfg s pdu' len capacity := by
  by_cases hl : len < 8
  · simp only [mbtcpProcessAdu,hl,true_or,if_true]
  · simp only [mbtcpProcessAdu,h 2 (by omega),h 3 (by omega),h 6 (by omega),
      h.readBe16_eq 4 (by omega),h.slice_eq 0 4 (by omega),
      mbProcessPdu_congr cfg s (capacity-7) (h.off 7 (len-7) (by omega))]

end Handlers

section Validation
variable (request : Request) (requestAdu : Mem Byte) (requestAduLength : Nat)
variable {adu adu' : Mem Byte} {len : Nat} (h : AgreeUpTo len adu adu')
include h

theorem checkReadBits_congr : checkReadBits request adu len = checkReadBits request adu' len := by
  by_cases hl : len = 5+(request.quantity.toNat+7)/8
  · have hp : packedBitPaddingIsZero (adu.off 3) ((request.quantity.toNat+7)/8) request.quantity =
        packedBitPaddingIsZero (adu'.off 3) ((request.quantity.toNat+7)/8) request.quantity := by
      have he : adu.off 3 ((request.quantity.toNat+7)/8-1) =
          adu'.off 3 ((request.quantity.toNat+7)/8-1) := h _ (by omega)
      simp only [packedBitPaddingIsZero,he]
    simp only [checkReadBits,hp,h 2 (by omega)]
  · simp only [checkReadBits,ne_eq,hl,not_false_eq_true,if_true]

theorem checkReadRegisters_congr :
    checkReadRegisters request adu len = checkReadRegisters request adu' len := by
  by_cases hl : len = 5+request.quantity.toNat*2
  · simp only [checkReadRegisters,h 2 (by omega)]
  · simp only [checkReadRegisters,ne_eq,hl,not_false_eq_true,if_true]

theorem matchSubresponses_congr (n requestOffset responseOffset : Nat) :
    matchSubresponses requestAdu requestAduLength adu len n requestOffset responseOffset =
      matchSubresponses requestAdu requestAduLength adu' len n requestOffset responseOffset := by
  induction n generalizing requestOffset responseOffset with
  | zero => rfl
  | succ n ih =>
    unfold matchSubresponses
    split
    · rfl
    · rename_i hg
      simp only [h responseOffset (by omega),h (responseOffset+1) (by omega),ih]

theorem checkReadFileRecord_congr :
    checkReadFileRecord request requestAdu requestAduLength adu len =
      checkReadFileRecord request requestAdu requestAduLength adu' len := by
  by_cases hl : len = 5+request.quantity.toNat
  · simp only [checkReadFileRecord,h 2 (by omega),
      matchSubresponses_congr requestAdu requestAduLength h]
  · simp only [checkReadFileRecord,ne_eq,hl,not_false_eq_true,if_true]

theorem checkWriteFileRecord_congr :
    checkWriteFileRecord request requestAdu requestAduLength adu len =
      checkWriteFileRecord request requestAdu requestAduLength adu' len := by
  by_cases hl : len = requestAduLength
  · simp only [checkWriteFileRecord,h.slice_eq 0 requestAduLength (by omega)]
  · simp only [checkWriteFileRecord,ne_eq,hl,not_false_eq_true,if_true]

theorem checkWriteAck_congr (echo : Word) :
    checkWriteAck request adu len echo = checkWriteAck request adu' len echo := by
  by_cases hl : len = 8
  · simp only [checkWriteAck,h.readBe16_eq 2 (by omega),h.readBe16_eq 4 (by omega)]
  · simp only [checkWriteAck,ne_eq,hl,not_false_eq_true,if_true]

theorem checkMaskWriteAck_congr :
    checkMaskWriteAck request adu len = checkMaskWriteAck request adu' len := by
  by_cases hl : len = 10
  · simp only [checkMaskWriteAck,h.readBe16_eq 2 (by omega),h.readBe16_eq 4 (by omega),
      h.readBe16_eq 6 (by omega)]
  · simp only [checkMaskWriteAck,ne_eq,hl,not_false_eq_true,if_true]

theorem checkDiagnostics_congr :
    checkDiagnostics request requestAdu requestAduLength adu len =
      checkDiagnostics request requestAdu requestAduLength adu' len := by
  unfold checkDiagnostics
  by_cases hl : len < 6 ∨ (len-6)%2 ≠ 0
  · simp only [hl,if_true]
  · rw [h.readBe16_eq 2 (by omega)]
    by_cases hq : len = requestAduLength
    · subst hq
      by_cases h8 : len = 8
      · simp only [h.slice_eq 0 len (by omega),h.slice_eq 4 2 (by omega)]
      · simp only [h.slice_eq 0 len (by omega),ne_eq,h8,not_false_eq_true,if_true]
    · by_cases h8 : len = 8
      · simp only [ne_eq,hq,not_false_eq_true,true_or,if_true,h.slice_eq 4 2 (by omega)]
      · simp only [ne_eq,hq,h8,not_false_eq_true,true_or,if_true]

theorem checkCommEventLog_congr :
    checkCommEventLog request adu len = checkCommEventLog request adu' len := by
  by_cases hl : len < 11
  · simp only [checkCommEventLog,hl,if_true]
  · simp only [checkCommEventLog,h 2 (by omega)]

theorem checkServerId_congr : checkServerId request adu len = checkServerId request adu' len := by
  by_cases hl : len < 6+request.quantity.toNat
  · simp only [checkServerId,hl,if_true]
  · simp only [checkServerId,h 2 (by omega),h (3+request.quantity.toNat) (by omega)]

theorem checkFifoQueue_congr :
    checkFifoQueue request adu len = checkFifoQueue request adu' len := by
  by_cases hl : len < 8
  · simp only [checkFifoQueue,hl,if_true]
  · simp only [checkFifoQueue,h.readBe16_eq 2 (by omega),h.readBe16_eq 4 (by omega)]

theorem checkMei_congr : checkMei request adu len = checkMei request adu' len := by
  by_cases hl : len < 5
  · simp only [checkMei,hl,if_true]
  · simp only [checkMei,h 2 (by omega)]

theorem checkObjects_congr (readCode category : Byte) (n i offset : Nat) (previous : Byte) :
    checkObjects request adu len readCode category n i offset previous =
      checkObjects request adu' len readCode category n i offset previous := by
  induction n generalizing i offset previous with
  | zero => rfl
  | succ n ih =>
    unfold checkObjects
    split
    · rfl
    · rename_i hg
      simp only [h offset (by omega),h (offset+1) (by omega),ih]

theorem checkDeviceId_congr : checkDeviceId request adu len = checkDeviceId request adu' len := by
  by_cases hl : len < 12
  · simp only [checkDeviceId,hl,if_true]
  · simp only [checkDeviceId,checkObjects_congr request h,h 2 (by omega),h 3 (by omega),
      h 4 (by omega),h 5 (by omega),h 6 (by omega),h 7 (by omega)]

theorem checkNormalResponse_congr :
    checkNormalResponse request requestAdu requestAduLength adu len =
      checkNormalResponse request requestAdu requestAduLength adu' len := by
  simp only [checkNormalResponse,checkReadBits_congr request h,checkReadRegisters_congr request h,
    checkReadFileRecord_congr request requestAdu requestAduLength h,
    checkWriteFileRecord_congr request requestAdu requestAduLength h,
    checkWriteAck_congr request h,checkMaskWriteAck_congr request h,
    checkDiagnostics_congr request requestAdu requestAduLength h,checkCommEventLog_congr request h,
    checkServerId_congr request h,checkFifoQueue_congr request h,checkMei_congr request h,
    checkDeviceId_congr request h]

theorem mbrtumProcessResponseWithRequestAdu_congr (original : Option (Mem Byte)) :
    mbrtumProcessResponseWithRequestAdu request original requestAduLength (some adu) len =
      mbrtumProcessResponseWithRequestAdu request original requestAduLength (some adu') len := by
  have hc : checkResponse request (original.getD fun _ => 0) requestAduLength adu len =
      checkResponse request (original.getD fun _ => 0) requestAduLength adu' len := by
    by_cases hl : len < 5 ∨ 256 < len
    · simp only [checkResponse,hl,if_true]
    · simp only [checkResponse,mbCrc16_congr len h,h 0 (by omega),h 1 (by omega),h 2 (by omega),
        checkNormalResponse_congr request _ requestAduLength h]
  simp only [mbrtumProcessResponseWithRequestAdu,hc]

end Validation

end ModbusStack
