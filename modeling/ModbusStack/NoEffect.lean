import ModbusStack.Pdu

/-! A refused request has no effect: whatever the request bytes, an error return or an
exception response leaves the whole data model as it was and calls no write hook. -/
set_option autoImplicit false

namespace ModbusStack
open ByteMemory

/-- Same data model and no write hook called in between. -/
def Quiet (s s' : Server) : Prop := s'.data = s.data ∧ s'.hooks = s.hooks

theorem Quiet.refl (s : Server) : Quiet s s := ⟨rfl,rfl⟩

theorem Quiet.emit {s s' : Server} (h : Quiet s s') (e : Event) (he : e.isWriteHook = false) :
    Quiet s (s'.emit e) := ⟨h.1,(Server.emit_hooks s' e he).trans h.2⟩

theorem Quiet.locked (s : Server) : Quiet s ((s.emit .lock).emit .unlock) :=
  ((Quiet.refl s).emit _ rfl).emit _ rfl

/-- What every function handler guarantees: a refusal is quiet, and a normal response
starts with the function code. -/
structure Handles (function : Byte) (s : Server) (out : Except Byte (List Byte) × Server) :
    Prop where
  refusal : ∀ e, out.1 = .error e → Quiet s out.2 ∧ e ≠ 0#8
  response : ∀ r, out.1 = .ok r → ∃ tail, r = function :: tail

theorem Handles.error {function : Byte} {s s' : Server} {e : Byte} (h : Quiet s s')
    (he : e ≠ 0#8) : Handles function s (.error e,s') where
  refusal := by
    intro e' heq
    cases heq
    exact ⟨h,he⟩
  response := by
    intro r heq
    cases heq

theorem Handles.ok {function : Byte} {s s' : Server} (tail : List Byte) :
    Handles function s (.ok (function :: tail),s') where
  refusal := by
    intro e heq
    cases heq
  response := by
    intro r heq
    cases heq
    exact ⟨tail,rfl⟩

theorem Handles.ok_slice {s s' : Server} (pdu : Mem Byte) (n : Nat) :
    Handles (pdu 0) s (.ok (slice pdu 0 (n+1)),s') := by
  rw [slice_cons]
  exact Handles.ok _

section Handlers
variable (cfg : Platform) (s : Server) (pdu : Mem Byte) (len capacity : Nat)

theorem readBits_handles (function : Byte) (limit : Nat) (get : DataModel → Word → Byte) :
    Handles function s (readBits s function limit get pdu len capacity) ∧
      Quiet s (readBits s function limit get pdu len capacity).2 := by
  simp only [readBits]
  repeat' split
  all_goals first
    | exact ⟨.error (.refl s) (by decide),.refl s⟩
    | exact ⟨.ok _,.refl s⟩

theorem readRegisters_handles (function : Byte) (limit : Nat) (get : DataModel → Word → Word) :
    Handles function s (readRegisters s function limit get pdu len capacity) ∧
      Quiet s (readRegisters s function limit get pdu len capacity).2 := by
  simp only [readRegisters]
  repeat' split
  all_goals first
    | exact ⟨.error (.refl s) (by decide),.refl s⟩
    | exact ⟨.ok _,.refl s⟩

theorem writeSingleCoil_handles : Handles (pdu 0) s (writeSingleCoil cfg s pdu len capacity) := by
  simp only [writeSingleCoil]
  repeat' split
  all_goals first
    | exact .error (.refl s) (by decide)
    | exact .ok_slice pdu 4

theorem writeSingleRegister_handles :
    Handles (pdu 0) s (writeSingleRegister cfg s pdu len capacity) := by
  simp only [writeSingleRegister]
  repeat' split
  all_goals first
    | exact .error (.refl s) (by decide)
    | exact .ok_slice pdu 4

theorem writeMultipleCoils_handles :
    Handles 0x0F#8 s (writeMultipleCoils cfg s pdu len capacity) := by
  simp only [writeMultipleCoils]
  repeat' split
  all_goals first
    | exact .error (.refl s) (by decide)
    | exact .ok _

theorem writeMultipleRegisters_handles :
    Handles 0x10#8 s (writeMultipleRegisters cfg s pdu len capacity) := by
  simp only [writeMultipleRegisters]
  repeat' split
  all_goals first
    | exact .error (.refl s) (by decide)
    | exact .ok _

theorem maskWriteRegister_handles :
    Handles (pdu 0) s (maskWriteRegister cfg s pdu len capacity) := by
  simp only [maskWriteRegister]
  repeat' split
  all_goals first
    | exact .error (.refl s) (by decide)
    | exact .ok_slice pdu 6

theorem readWriteMultipleRegisters_handles :
    Handles 0x17#8 s (readWriteMultipleRegisters cfg s pdu len capacity) := by
  simp only [readWriteMultipleRegisters]
  repeat' split
  all_goals first
    | exact .error (.refl s) (by decide)
    | exact .ok _

/-- The exceptions of the two validation passes are never zero. -/
theorem validateReadSubrequests_error (st : FileRecordState) (fuel offset total : Nat) (e : Byte)
    (h : validateReadSubrequests st pdu len fuel offset total = .error e) : e ≠ 0#8 := by
  induction fuel generalizing offset total with
  | zero => cases h
  | succ fuel ih =>
    simp only [validateReadSubrequests] at h
    repeat' split at h
    all_goals first
      | exact ih _ _ h
      | cases h; try decide

theorem validateWriteSubrequests_error (st : FileRecordState) (fuel offset count : Nat) (e : Byte)
    (h : validateWriteSubrequests st pdu len fuel offset count = .error e) : e ≠ 0#8 := by
  induction fuel generalizing offset count with
  | zero => cases h
  | succ fuel ih =>
    simp only [validateWriteSubrequests] at h
    repeat' split at h
    all_goals first
      | exact ih _ _ h
      | cases h; try decide

theorem mbFileRecordProcessReadRequest_handles :
    Handles 0x14#8 s (mbFileRecordProcessReadRequest s pdu len capacity) ∧
      Quiet s (mbFileRecordProcessReadRequest s pdu len capacity).2 := by
  simp only [mbFileRecordProcessReadRequest]
  split
  · exact ⟨.error (.refl s) (by decide),.refl s⟩
  split
  · exact ⟨.error (.refl s) (by decide),.refl s⟩
  split
  · rename_i e he
    exact ⟨.error (.locked s) (validateReadSubrequests_error pdu len _ _ _ _ e he),.locked s⟩
  split
  · exact ⟨.error (.locked s) (by decide),.locked s⟩
  · exact ⟨.ok _,.locked s⟩

theorem mbFileRecordProcessWriteRequest_handles :
    Handles (pdu 0) s (mbFileRecordProcessWriteRequest s pdu len capacity) := by
  simp only [mbFileRecordProcessWriteRequest]
  split
  · exact .error (.refl s) (by decide)
  split
  · exact .error (.refl s) (by decide)
  split
  · rename_i e he
    exact .error (.locked s) (validateWriteSubrequests_error pdu len _ _ _ _ e he)
  split
  · exact .error (.locked s) (by decide)
  split
  · exact .error (.locked s) (by decide)
  · rename_i hl _ _ _ _ _ _ _
    obtain ⟨n,rfl⟩ := Nat.exists_eq_add_of_le (show 1 ≤ len by omega)
    rw [Nat.add_comm 1 n]
    exact .ok_slice pdu n

theorem mbFifoProcessReadRequest_handles :
    Handles 0x18#8 s (mbFifoProcessReadRequest s pdu len capacity) ∧
      Quiet s (mbFifoProcessReadRequest s pdu len capacity).2 := by
  simp only [mbFifoProcessReadRequest]
  repeat' split
  all_goals first
    | exact ⟨.error (.refl s) (by decide),.refl s⟩
    | exact ⟨.error (.locked s) (by decide),.locked s⟩
    | exact ⟨.ok _,.locked s⟩

theorem mbDeviceIdProcessRequest_handles (code objectId : Byte) :
    Handles 0x2B#8 s (mbDeviceIdProcessRequest s code objectId capacity) ∧
      Quiet s (mbDeviceIdProcessRequest s code objectId capacity).2 := by
  simp only [mbDeviceIdProcessRequest]
  repeat' split
  all_goals first
    | exact ⟨.error (.refl s) (by decide),.refl s⟩
    | exact ⟨.error (.locked s) (by decide),.locked s⟩
    | exact ⟨.ok _,.locked s⟩

theorem mbMeiProcessRequest_handles :
    Handles 0x2B#8 s (mbMeiProcessRequest cfg s pdu len capacity) ∧
      Quiet s (mbMeiProcessRequest cfg s pdu len capacity).2 := by
  simp only [mbMeiProcessRequest]
  split
  · exact ⟨.error (.refl s) (by decide),.refl s⟩
  split
  · split
    · exact ⟨.error (.refl s) (by decide),.refl s⟩
    · exact mbDeviceIdProcessRequest_handles s capacity _ _
  split
  · exact ⟨.error (.refl s) (by decide),.refl s⟩
  split
  · exact ⟨.error (.locked s) (by decide),.locked s⟩
  split
  · exact ⟨.error (.locked s) (by decide),.locked s⟩
  -- the handler has been called; its code is passed on only when it is a standard exception
  have hq := (Quiet.locked s).emit (.meiHandler (pdu 1)) rfl
  split
  · refine ⟨.error hq ?_,hq⟩
    split
    · assumption
    · decide
  split
  · exact ⟨.error hq (by decide),hq⟩
  · exact ⟨.ok _,hq⟩

theorem processPduFunction_handles :
    Handles (pdu 0) s (processPduFunction cfg s pdu len capacity) ∧
      ((∃ r, (processPduFunction cfg s pdu len capacity).1 = .ok r) → (pdu 0).toNat < 0x80) := by
  have hcode : ∀ n : Nat, (pdu 0).toNat = n → n < 256 → pdu 0 = BitVec.ofNat 8 n := by
    intro n hn _
    rw [← hn]
    simp
  simp only [processPduFunction]
  split
  · exact ⟨.error (.refl s) (by decide),by rintro ⟨r,hr⟩; cases hr⟩
  split
  case _ h => exact ⟨hcode _ h (by decide) ▸ (readBits_handles s pdu len capacity _ _ _).1,by omega⟩
  case _ h => exact ⟨hcode _ h (by decide) ▸ (readBits_handles s pdu len capacity _ _ _).1,by omega⟩
  case _ h =>
    exact ⟨hcode _ h (by decide) ▸ (readRegisters_handles s pdu len capacity _ _ _).1,by omega⟩
  case _ h =>
    exact ⟨hcode _ h (by decide) ▸ (readRegisters_handles s pdu len capacity _ _ _).1,by omega⟩
  case _ h => exact ⟨writeSingleCoil_handles cfg s pdu len capacity,by omega⟩
  case _ h => exact ⟨writeSingleRegister_handles cfg s pdu len capacity,by omega⟩
  case _ h => exact ⟨hcode _ h (by decide) ▸ writeMultipleCoils_handles cfg s pdu len capacity,by omega⟩
  case _ h =>
    exact ⟨hcode _ h (by decide) ▸ writeMultipleRegisters_handles cfg s pdu len capacity,by omega⟩
  case _ h =>
    exact ⟨hcode _ h (by decide) ▸ (mbFileRecordProcessReadRequest_handles s pdu len capacity).1,by omega⟩
  case _ h => exact ⟨mbFileRecordProcessWriteRequest_handles s pdu len capacity,by omega⟩
  case _ h => exact ⟨maskWriteRegister_handles cfg s pdu len capacity,by omega⟩
  case _ h =>
    exact ⟨hcode _ h (by decide) ▸ readWriteMultipleRegisters_handles cfg s pdu len capacity,by omega⟩
  case _ h =>
    exact ⟨hcode _ h (by decide) ▸ (mbFifoProcessReadRequest_handles s pdu len capacity).1,by omega⟩
  case _ h =>
    exact ⟨hcode _ h (by decide) ▸ (mbMeiProcessRequest_handles cfg s pdu len capacity).1,by omega⟩
  case _ => exact ⟨.error (.refl s) (by decide),by rintro ⟨r,hr⟩; cases hr⟩

def isReadOnlyRequest (pdu : Mem Byte) : Prop :=
  pdu 0 = 0x01#8 ∨ pdu 0 = 0x02#8 ∨ pdu 0 = 0x03#8 ∨ pdu 0 = 0x04#8 ∨ pdu 0 = 0x14#8 ∨
    pdu 0 = 0x18#8 ∨ (pdu 0 = 0x2B#8 ∧ pdu 1 = 0x0E#8)

theorem processPduFunction_readOnly (h : isReadOnlyRequest pdu) :
    Quiet s (processPduFunction cfg s pdu len capacity).2 := by
  simp only [processPduFunction]
  split
  · exact .refl s
  rcases h with h | h | h | h | h | h | ⟨h,_⟩ <;> rw [h]
  · exact (readBits_handles s pdu len capacity _ _ _).2
  · exact (readBits_handles s pdu len capacity _ _ _).2
  · exact (readRegisters_handles s pdu len capacity _ _ _).2
  · exact (readRegisters_handles s pdu len capacity _ _ _).2
  · exact (mbFileRecordProcessReadRequest_handles s pdu len capacity).2
  · exact (mbFifoProcessReadRequest_handles s pdu len capacity).2
  · exact (mbMeiProcessRequest_handles cfg s pdu len capacity).2

/-- The test of `response_exception_code`: two bytes, the first with its top bit set. -/
def isExceptionPdu (response : List Byte) : Bool :=
  response.length = 2 ∧ ofList response 0 &&& 0x80#8 ≠ 0#8

theorem and_0x80_of_lt (b : Byte) (h : b.toNat < 0x80) : b &&& 0x80#8 = 0#8 := by
  revert b
  decide +kernel

theorem or_0x80_and (b : Byte) : (b ||| 0x80#8) &&& 0x80#8 ≠ 0#8 := by
  revert b
  decide +kernel

theorem normal_response_not_exception (b : Byte) (tail : List Byte) (h : b.toNat < 0x80) :
    isExceptionPdu (b :: tail) = false := by
  simp [isExceptionPdu,and_0x80_of_lt b h]

theorem mbProcessPdu_refusal (r : List Byte) (hr : (mbProcessPdu cfg s pdu len capacity).1 = .ok r)
    (he : isExceptionPdu r = true) : Quiet s (mbProcessPdu cfg s pdu len capacity).2 := by
  obtain ⟨hh,hlow⟩ := processPduFunction_handles cfg s pdu len capacity
  simp only [mbProcessPdu] at hr ⊢
  split at hr
  · cases hr
  split at hr
  · cases hr
  rename_i hlen hcap
  simp only [hlen,hcap,if_false]
  cases hf : processPduFunction cfg s pdu len capacity with
  | mk out s' =>
    rw [hf] at hr hh hlow
    cases out with
    | error e => exact (hh.refusal e rfl).1
    | ok r' =>
      cases hr
      obtain ⟨tail,rfl⟩ := hh.response r rfl
      rw [normal_response_not_exception _ _ (hlow ⟨_,rfl⟩)] at he
      cases he

theorem mbProcessPdu_readOnly (h : isReadOnlyRequest pdu) :
    Quiet s (mbProcessPdu cfg s pdu len capacity).2 := by
  have hq := processPduFunction_readOnly cfg s pdu len capacity h
  simp only [mbProcessPdu]
  split
  · exact .refl s
  split
  · exact .refl s
  split <;> simp_all

end Handlers

/-- For every state, request and capacity: a negative return or an exception response
leaves coils, inputs, registers, file records and tables as they were and calls no write
hook, and the read functions do so on every outcome. -/
theorem mbProcessPdu_exception_without_effect (cfg : Platform) (s : Server) (pdu : Mem Byte)
    (len capacity : Nat) :
    ((∃ e, (mbProcessPdu cfg s pdu len capacity).1 = .error e) ∨
        (∃ r, (mbProcessPdu cfg s pdu len capacity).1 = .ok r ∧ isExceptionPdu r = true) →
      (mbProcessPdu cfg s pdu len capacity).2.data = s.data ∧
        (mbProcessPdu cfg s pdu len capacity).2.hooks = s.hooks) ∧
    (isReadOnlyRequest pdu →
      (mbProcessPdu cfg s pdu len capacity).2.data = s.data ∧
        (mbProcessPdu cfg s pdu len capacity).2.hooks = s.hooks) := by
  refine ⟨?_,mbProcessPdu_readOnly cfg s pdu len capacity⟩
  rintro (⟨e,he⟩ | ⟨r,hr,hx⟩)
  · simp only [mbProcessPdu] at he ⊢
    split at he
    · rename_i h
      simp [h]
    split at he
    · rename_i h h'
      simp [h,h']
    split at he <;> cases he
  · exact mbProcessPdu_refusal cfg s pdu len capacity r hr hx

def badByteCount : List Byte := [0x10#8,0x00#8,0x00#8,0x00#8,0x01#8,0x03#8,0x12#8,0x34#8]

theorem mbProcessPdu_exception_without_effect_byteCount :
    (mbProcessPdu .standard .zeroed (ofList badByteCount) 8 253).1 = .ok [0x90#8,0x03#8] ∧
    (mbProcessPdu .standard .zeroed (ofList badByteCount) 8 253).2.data = Server.zeroed.data ∧
      (mbProcessPdu .standard .zeroed (ofList badByteCount) 8 253).2.hooks = Server.zeroed.hooks := by
  have hresponse : (mbProcessPdu .standard .zeroed (ofList badByteCount) 8 253).1 =
    .ok [0x90#8,0x03#8] := by decide +kernel
  exact ⟨hresponse,(mbProcessPdu_exception_without_effect .standard .zeroed (ofList badByteCount) 8
    253).1 (Or.inr ⟨_,hresponse,by decide⟩)⟩

end ModbusStack
