import ModbusStack.NoEffect

/-! The size and the shape of every response PDU: whatever the state, the request and the
response room, it is a normal response or an exception that fits. -/
set_option autoImplicit false

namespace ModbusStack
open ByteMemory

def Fits (capacity : Nat) (response : List Byte) : Prop :=
  2 ≤ response.length ∧ response.length ≤ capacity ∧ response.length ≤ modbusPduMaxSize

def AnswersFit (capacity : Nat) (out : Except Byte (List Byte) × Server) : Prop :=
  ∀ r, out.1 = .ok r → Fits capacity r

theorem AnswersFit.error {capacity : Nat} (e : Byte) (s : Server) :
    AnswersFit capacity (.error e,s) := by
  intro r h
  cases h

theorem AnswersFit.ok {capacity : Nat} {response : List Byte} (s : Server)
    (h : Fits capacity response) : AnswersFit capacity (.ok response,s) := by
  intro r hr
  cases hr
  exact h

theorem packBits_length (bit : Nat → Byte) (quantity : Nat) :
    (packBits bit quantity).length = (quantity+7)/8 := by
  have hfold : ∀ (l : List Nat) (data : List Byte), (l.foldl (fun data i =>
      data.modify (i/8) fun b => b ||| ((bit i &&& 1#8) <<< (i%8))) data).length = data.length := by
    intro l
    induction l with
    | nil => intro data; rfl
    | cons i l ih => intro data; rw [List.foldl_cons,ih,List.length_modify]
  rw [packBits,hfold,List.length_replicate]

section Handlers
variable (cfg : Platform) (s : Server) (pdu : Mem Byte) (len capacity : Nat)

theorem readBits_fits (function : Byte) (limit : Nat) (get : DataModel → Word → Byte) :
    AnswersFit capacity (readBits s function limit get pdu len capacity) := by
  simp only [readBits]
  split
  · exact .error _ s
  split
  · exact .error _ s
  split
  · exact .error _ s
  split
  · exact .error _ s
  · refine .ok s ?_
    simp only [Fits,List.length_append,List.length_cons,List.length_nil,packBits_length,
      modbusPduMaxSize]
    omega

theorem readRegisters_fits (function : Byte) (limit : Nat) (get : DataModel → Word → Word) :
    AnswersFit capacity (readRegisters s function limit get pdu len capacity) := by
  simp only [readRegisters]
  split
  · exact .error _ s
  split
  · exact .error _ s
  split
  · exact .error _ s
  split
  · exact .error _ s
  · refine .ok s ?_
    simp only [Fits,List.length_append,List.length_cons,List.length_nil,encodeWords_length,
      List.length_map,List.length_range,modbusPduMaxSize]
    omega

theorem writeSingleCoil_fits : AnswersFit capacity (writeSingleCoil cfg s pdu len capacity) := by
  simp only [writeSingleCoil]
  repeat' split
  all_goals first
    | exact .error _ s
    | refine .ok _ ?_
      simp only [Fits,slice_length,modbusPduMaxSize]
      omega

theorem writeSingleRegister_fits :
    AnswersFit capacity (writeSingleRegister cfg s pdu len capacity) := by
  simp only [writeSingleRegister]
  repeat' split
  all_goals first
    | exact .error _ s
    | refine .ok _ ?_
      simp only [Fits,slice_length,modbusPduMaxSize]
      omega

theorem writeMultipleCoils_fits :
    AnswersFit capacity (writeMultipleCoils cfg s pdu len capacity) := by
  simp only [writeMultipleCoils]
  repeat' split
  all_goals first
    | exact .error _ s
    | refine .ok _ ?_
      simp only [Fits,List.length_append,List.length_cons,List.length_nil,writeBe16_length,
        modbusPduMaxSize]
      omega

theorem writeMultipleRegisters_fits :
    AnswersFit capacity (writeMultipleRegisters cfg s pdu len capacity) := by
  simp only [writeMultipleRegisters]
  repeat' split
  all_goals first
    | exact .error _ s
    | refine .ok _ ?_
      simp only [Fits,List.length_append,List.length_cons,List.length_nil,writeBe16_length,
        modbusPduMaxSize]
      omega

theorem maskWriteRegister_fits :
    AnswersFit capacity (maskWriteRegister cfg s pdu len capacity) := by
  simp only [maskWriteRegister]
  repeat' split
  all_goals first
    | exact .error _ s
    | refine .ok _ ?_
      simp only [Fits,slice_length,modbusPduMaxSize]
      omega

theorem readWriteMultipleRegisters_fits :
    AnswersFit capacity (readWriteMultipleRegisters cfg s pdu len capacity) := by
  simp only [readWriteMultipleRegisters]
  split
  · exact .error _ s
  split
  · exact .error _ s
  split
  · exact .error _ s
  split
  · exact .error _ s
  split
  · exact .error _ s
  · refine .ok _ ?_
    simp only [Fits,List.length_append,List.length_cons,List.length_nil,encodeWords_length,
      List.length_map,List.length_range,modbusPduMaxSize]
    omega

/-- The emission pass of FC20 fills exactly the length that the validation pass has summed. -/
theorem emitReadSubresponses_length (d : DataModel) (fuel offset total sum : Nat)
    (h : validateReadSubrequests d.fileRecord pdu len fuel offset total = .ok sum) :
    total+(emitReadSubresponses d pdu len fuel offset).length = sum := by
  induction fuel generalizing offset total with
  | zero =>
    simp only [validateReadSubrequests,Except.ok.injEq] at h
    simpa [emitReadSubresponses] using h
  | succ fuel ih =>
    simp only [validateReadSubrequests] at h
    simp only [emitReadSubresponses]
    split
    · rename_i ho
      simp only [ho,if_true] at h
      repeat' split at h
      all_goals try cases h
      rename_i hfile _
      have hlen := ih _ _ h
      simp only [fileRangeIsBad] at hfile
      cases hf : findFileRecordUnlocked d.fileRecord (readSubrequest pdu offset).fileNumber with
      | none => simp [hf] at hfile
      | some file =>
        simp only [List.length_append,List.length_cons,List.length_nil,encodeWords_length,readRecords,
          slice_length]
        omega
    · rename_i ho
      simp only [ho,if_false,Except.ok.injEq] at h
      simpa using h

theorem mbFileRecordProcessReadRequest_fits :
    AnswersFit capacity (mbFileRecordProcessReadRequest s pdu len capacity) := by
  simp only [mbFileRecordProcessReadRequest]
  split
  · exact .error _ s
  split
  · exact .error _ s
  split
  · exact .error _ _
  rename_i sum hsum
  have hlen := emitReadSubresponses_length pdu len (s.emit .lock).data len 2 0 sum hsum
  split
  · exact .error _ _
  · refine .ok _ ?_
    simp only [Fits,List.length_append,List.length_cons,List.length_nil]
    simp only [responseLimit,modbusPduMaxSize] at *
    omega

theorem mbFileRecordProcessWriteRequest_fits :
    AnswersFit capacity (mbFileRecordProcessWriteRequest s pdu len capacity) := by
  simp only [mbFileRecordProcessWriteRequest]
  split
  · exact .error _ s
  split
  · exact .error _ s
  split
  · exact .error _ _
  split
  · exact .error _ _
  split
  · exact .error _ _
  · refine .ok _ ?_
    simp only [responseLimit,modbusPduMaxSize] at *
    simp only [Fits,slice_length,modbusPduMaxSize]
    omega

theorem mbFifoProcessReadRequest_fits :
    AnswersFit capacity (mbFifoProcessReadRequest s pdu len capacity) := by
  simp only [mbFifoProcessReadRequest]
  split
  · exact .error _ s
  split
  · exact .error _ _
  split
  · exact .error _ _
  split
  · exact .error _ _
  split
  · exact .error _ _
  · refine .ok _ ?_
    simp only [Fits,List.length_append,List.length_cons,List.length_nil,writeBe16_length,
      encodeWords_length,slice_length,modbusPduMaxSize]
    omega

/-- The page loop never goes past the limit. -/
theorem pageLoop_length (d : DeviceIdState) (category : Byte) (limit fuel index : Nat)
    (count : Byte) (body : List Byte) (hb : 7+body.length ≤ limit) (page : DeviceIdPage)
    (h : pageLoop d category limit fuel index count body = some page) :
    7+page.body.length ≤ limit := by
  induction fuel generalizing index count body with
  | zero =>
    simp only [pageLoop,Option.some.injEq] at h
    rw [← h]
    exact hb
  | succ fuel ih =>
    simp only [pageLoop] at h
    split at h
    · split at h
      · exact ih _ _ _ hb h
      split at h
      · split at h
        · cases h
        · cases h
          exact hb
      · rename_i hroom
        have hb' : 7+(body ++ deviceIdObjectBytes d (d.objects index)).length ≤ limit := by
          simp only [deviceIdObjectBytes,List.length_append,List.length_cons,List.length_nil,
            slice_length]
          omega
        split at h
        · cases h
          exact hb'
        · exact ih _ _ _ hb' h
    · cases h
      exact hb

theorem mbDeviceIdProcessRequest_fits (code objectId : Byte) :
    AnswersFit capacity (mbDeviceIdProcessRequest s code objectId capacity) := by
  simp only [mbDeviceIdProcessRequest]
  repeat' split
  all_goals first
    | exact .error _ _
    | refine .ok _ ?_
      have hlen := fun hb => pageLoop_length _ _ _ _ _ _ [] hb _ ‹pageLoop _ _ _ _ _ _ _ = some _›
      simp only [responseLimit,modbusPduMaxSize,List.length_nil] at *
      simp only [Fits,List.length_append,List.length_cons,List.length_nil,modbusPduMaxSize]
      omega
    | refine .ok _ ?_
      simp only [responseLimit,modbusPduMaxSize] at *
      simp only [Fits,deviceIdObjectBytes,List.length_append,List.length_cons,List.length_nil,
        slice_length,modbusPduMaxSize]
      omega

theorem mbMeiProcessRequest_fits :
    AnswersFit capacity (mbMeiProcessRequest cfg s pdu len capacity) := by
  simp only [mbMeiProcessRequest]
  split
  · exact .error _ _
  split
  · split
    · exact .error _ _
    · exact mbDeviceIdProcessRequest_fits s capacity _ _
  split
  · exact .error _ _
  split
  · exact .error _ _
  split
  · exact .error _ _
  split
  · exact .error _ _
  split
  · exact .error _ _
  · refine .ok _ ?_
    simp only [responseLimit,modbusPduMaxSize] at *
    simp only [Fits,List.length_append,List.length_cons,List.length_nil,modbusPduMaxSize]
    omega

theorem processPduFunction_fits :
    AnswersFit capacity (processPduFunction cfg s pdu len capacity) := by
  unfold processPduFunction
  split
  · exact .error _ _
  split
  · exact readBits_fits s pdu len capacity _ _ _
  · exact readBits_fits s pdu len capacity _ _ _
  · exact readRegisters_fits s pdu len capacity _ _ _
  · exact readRegisters_fits s pdu len capacity _ _ _
  · exact writeSingleCoil_fits cfg s pdu len capacity
  · exact writeSingleRegister_fits cfg s pdu len capacity
  · exact writeMultipleCoils_fits cfg s pdu len capacity
  · exact writeMultipleRegisters_fits cfg s pdu len capacity
  · exact mbFileRecordProcessReadRequest_fits s pdu len capacity
  · exact mbFileRecordProcessWriteRequest_fits s pdu len capacity
  · exact maskWriteRegister_fits cfg s pdu len capacity
  · exact readWriteMultipleRegisters_fits cfg s pdu len capacity
  · exact mbFifoProcessReadRequest_fits s pdu len capacity
  · exact mbMeiProcessRequest_fits cfg s pdu len capacity
  · exact .error _ _

end Handlers

def AnswersFunction (function : Byte) (response : List Byte) : Prop :=
  (function.toNat < 0x80 ∧ ∃ tail, response = function :: tail) ∨
    ∃ code, code ≠ 0#8 ∧ response = [function ||| 0x80#8,code]

/-- The spec of `mb_process_pdu` on a request of a legal size. -/
theorem mbProcessPdu_answers (cfg : Platform) (s : Server) (pdu : Mem Byte) (len capacity : Nat)
    (hlen : 1 ≤ len ∧ len ≤ modbusPduMaxSize) (hcap : 2 ≤ capacity) :
    ∃ r, (mbProcessPdu cfg s pdu len capacity).1 = .ok r ∧ Fits capacity r ∧
      AnswersFunction (pdu 0) r := by
  obtain ⟨hh,hlow⟩ := processPduFunction_handles cfg s pdu len capacity
  have hfit := processPduFunction_fits cfg s pdu len capacity
  have h0 : ¬ (len = 0 ∨ modbusPduMaxSize < len) := by omega
  simp only [mbProcessPdu,h0,Nat.not_lt.mpr hcap,if_false]
  cases hf : processPduFunction cfg s pdu len capacity with
  | mk out s' =>
    rw [hf] at hh hlow hfit
    cases out with
    | error e =>
      refine ⟨_,rfl,?_,.inr ⟨e,(hh.refusal e rfl).2,rfl⟩⟩
      simp only [Fits,List.length_cons,List.length_nil,modbusPduMaxSize]
      omega
    | ok r => exact ⟨r,rfl,hfit r rfl,.inl ⟨hlow ⟨r,rfl⟩,hh.response r rfl⟩⟩

/-- With room for two bytes `mb_process_pdu` answers every request of a legal size. -/
theorem mbProcessPdu_ok (cfg : Platform) (server : Server) (pdu : Mem Byte) (len capacity : Nat)
    (hlen : 1 ≤ len ∧ len ≤ modbusPduMaxSize) (hcap : 2 ≤ capacity) :
    ∃ response server', mbProcessPdu cfg server pdu len capacity = (.ok response,server') := by
  obtain ⟨r,hr,-⟩ := mbProcessPdu_answers cfg server pdu len capacity hlen hcap
  exact ⟨r,_,Prod.ext hr rfl⟩

end ModbusStack
