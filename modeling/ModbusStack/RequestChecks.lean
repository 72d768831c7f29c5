import ModbusStack.Transaction
import ModbusStack.WireRequest

/-! Every well-formed request passes the three checks that the master makes of its own
requests: of the descriptor, of the original ADU, and of both before a transmission. -/
set_option autoImplicit false

namespace ModbusStack
open ByteMemory

theorem readSubrequest_stored {m : Mem Byte} {offset : Nat} {r : FileRecordRequest}
    (h : Stored m offset r.encode) :
    readSubrequest m offset = ⟨0x06#8,r.fileNumber,r.recordNumber,r.recordLength⟩ := by
  simp only [FileRecordRequest.encode,writeBe16,List.cons_append,List.nil_append,stored_cons,
    Nat.add_assoc,Nat.reduceAdd] at h
  obtain ⟨h0,h1,h2,h3,h4,h5,h6,-⟩ := h
  simp [readSubrequest,h0,h1,h2,h3,h4,h5,h6]

theorem scanReadSubrequests_encode {m : Mem Byte} (dataEnd : Nat)
    (subrequests : List FileRecordRequest) (fuel offset total count : Nat)
    (hstored : Stored m offset (subrequests.flatMap FileRecordRequest.encode))
    (hend : dataEnd = offset+subrequests.length*7) (hfuel : subrequests.length ≤ fuel)
    (hvalid : ∀ r ∈ subrequests, r.Valid) (hfits : total+WireRequest.readLength subrequests ≤ 245) :
    scanReadSubrequests m dataEnd fuel offset total count =
      some (total+WireRequest.readLength subrequests,count+subrequests.length) := by
  induction subrequests generalizing fuel offset total count with
  | nil =>
    have hstop : ¬ offset < dataEnd := by simp at hend; omega
    cases fuel with
    | zero => rfl
    | succ fuel => simp [scanReadSubrequests,hstop,WireRequest.readLength]
  | cons r rest ih =>
    obtain ⟨fuel,rfl⟩ := Nat.exists_eq_add_of_le' hfuel
    simp only [List.length_cons] at hend
    have hlt : offset < dataEnd := by omega
    rw [List.flatMap_cons,stored_append,r.encode_length] at hstored
    have hr := hvalid r List.mem_cons_self
    rw [WireRequest.readLength_cons] at hfits ⊢
    have ht := ih (fuel+rest.length) (offset+7) (total+(2+r.recordLength.toNat*2)) (count+1)
      hstored.2 (by omega) (by omega) (fun q hq => hvalid q (List.mem_cons_of_mem _ hq))
      (by omega)
    have hroom : ¬ 245-total < 2+r.recordLength.toNat*2 := by omega
    rw [List.length_cons,← Nat.add_assoc,scanReadSubrequests]
    simp only [hlt,if_true,readSubrequest_stored hstored.1,hr.file,hr.range,hroom,ne_eq,
      not_true_eq_false,or_self,if_false,ht]
    congr 2 <;> omega

theorem scanWriteSubrequests_encode {m : Mem Byte} (dataEnd : Nat)
    (subrequests : List (FileRecordRequest × List Word)) (fuel offset count : Nat)
    (hstored : Stored m offset (subrequests.flatMap encodeWriteSubrequest))
    (hend : dataEnd = offset+WireRequest.writeLength subrequests)
    (hfuel : subrequests.length ≤ fuel)
    (hvalid : ∀ r ∈ subrequests, r.1.Valid ∧ r.2.length = r.1.recordLength.toNat) :
    scanWriteSubrequests m dataEnd fuel offset count =
      some (dataEnd,count+subrequests.length) := by
  induction subrequests generalizing fuel offset count with
  | nil =>
    simp only [WireRequest.writeLength,List.map_nil,List.sum_nil,Nat.add_zero] at hend
    subst hend
    cases fuel with
    | zero => rfl
    | succ fuel => simp [scanWriteSubrequests]
  | cons r rest ih =>
    obtain ⟨fuel,rfl⟩ := Nat.exists_eq_add_of_le' hfuel
    obtain ⟨hr,hlen⟩ := hvalid r List.mem_cons_self
    rw [WireRequest.writeLength_cons] at hend
    rw [List.flatMap_cons,stored_append,encodeWriteSubrequest,stored_append] at hstored
    simp only [List.length_append,r.1.encode_length,encodeWords_length,hlen] at hstored
    obtain ⟨⟨hhead,-⟩,htail⟩ := hstored
    have ht := ih (fuel+rest.length) (offset+(7+r.1.recordLength.toNat*2)) (count+1)
      (by rw [Nat.mul_comm]; exact htail) (by omega) (by omega)
      (fun q hq => hvalid q (List.mem_cons_of_mem _ hq))
    have hlt : offset < dataEnd := by omega
    have h7 : ¬ dataEnd-offset < 7 := by omega
    have hroom : ¬ dataEnd-offset < 7+r.1.recordLength.toNat*2 := by omega
    rw [List.length_cons,← Nat.add_assoc,scanWriteSubrequests]
    simp only [hlt,if_true,readSubrequest_stored hhead,hr.file,hr.range,h7,hroom,ne_eq,
      not_true_eq_false,or_self,if_false,ht]
    congr 2
    omega

namespace WireRequest
variable {a : Byte} {w : WireRequest}

theorem frame_length (w : WireRequest) (a : Byte) : (w.frame a).length = w.body.length+2 := rfl

@[simp] theorem descriptor_slaveAddress : (w.descriptor a).slaveAddress = a := by cases w <;> rfl

@[simp] theorem descriptor_function : (w.descriptor a).function = w.function := by cases w <;> rfl

theorem unicast_ne_zero (h : unicastAddressIsValid a = true) : a ≠ 0#8 := by
  rintro rfl
  simp [unicastAddressIsValid] at h

theorem address_le (h : w.WellFormed a) : a.toNat ≤ 247 := by
  have hu : unicastAddressIsValid a = true → a.toNat ≤ 247 := by
    simp only [unicastAddressIsValid,decide_eq_true_eq]
    exact fun h => h.2
  have hw : writeAddressIsValid a = true → a.toNat ≤ 247 := by
    simp only [writeAddressIsValid,decide_eq_true_eq]
    rintro (rfl | h)
    · simp
    · exact hu h
  cases w with
  | writeSingle | writeMultipleCoils | writeMultipleRegisters | writeFileRecord => exact hw h.1
  | maskWriteRegister => exact hw h
  | readFifoQueue => exact hu h
  | diagnostics =>
    rcases h.2.2.2.1 with h | ⟨rfl,-⟩
    · exact hu h
    · simp
  | _ => exact hu h.1

theorem body_length_le (h : w.WellFormed a) : w.body.length ≤ 252 := by
  cases w with
  | writeMultipleCoils start quantity packed =>
    obtain ⟨-,-,hq,hp,-⟩ := h
    simp [body,hp]
    omega
  | writeMultipleRegisters start quantity values =>
    obtain ⟨-,-,hq,hv⟩ := h
    simp [body,hv]
    omega
  | readWriteMultipleRegisters readStart readQuantity writeStart writeQuantity values =>
    obtain ⟨-,-,-,-,hq,hv⟩ := h
    simp [body,hv]
    omega
  | readFileRecord subrequests =>
    obtain ⟨-,-,hc,-⟩ := h
    simp only [body,List.length_append,flatMap_encode_length,List.length_cons,List.length_nil]
    omega
  | writeFileRecord subrequests =>
    obtain ⟨-,-,-,hv,hl⟩ := h
    simp only [body,List.length_append,flatMap_encodeWrite_length _ fun r hr => (hv r hr).2,
      List.length_cons,List.length_nil]
    omega
  | mei meiType data =>
    have hd := h.2.2
    simp only [body,List.length_cons]
    omega
  | diagnostics subfunction data =>
    have hd := h.2.1
    simp only [body,List.length_append,writeBe16_length]
    omega
  | _ => simp [body]

/-- The reply is expected from a single slave, except to Force Listen Only. -/
def answered (a : Byte) : WireRequest → Bool
  | .diagnostics subfunction _ => a ≠ 0#8 ∧ subfunction ≠ 0x0004#16
  | _ => a ≠ 0#8

theorem descriptor_expectsResponse :
    (w.descriptor a).expectsResponse = if w.answered a = true then 1#8 else 0#8 := by
  cases w with
  | diagnostics subfunction data => simp [descriptor,answered]
  | _ =>
    simp only [descriptor,finishRequest,answered,decide_eq_true_eq]
    by_cases h : a = 0#8 <;> simp [h]

theorem addressRange_ne_zero {start quantity : Word}
    (h : addressRangeIsValid start quantity = true) : quantity ≠ 0#16 := by
  rintro rfl
  simp [addressRangeIsValid] at h

theorem quantityIsBad_of_valid {limit : Nat} {start quantity : Word}
    (hr : addressRangeIsValid start quantity = true) (hq : quantity.toNat ≤ limit) :
    quantityIsBad limit start quantity = false := by
  have hz := addressRange_ne_zero hr
  simp only [quantityIsBad,hr,not_true_eq_false,or_false,decide_eq_false_iff_not,not_or]
  exact ⟨hz,by omega⟩

theorem readLength_bounds {subrequests : List FileRecordRequest} (hne : 0 < subrequests.length)
    (hv : ∀ r ∈ subrequests, r.Valid) :
    4 ≤ readLength subrequests ∧ readLength subrequests%2 = 0 := by
  have hlen : ∀ r : FileRecordRequest, r.Valid → 0 < r.recordLength.toNat := by
    intro r hr
    have h := hr.range
    simp only [fileRecordRangeIsValid,decide_eq_true_eq] at h
    exact h.1
  induction subrequests with
  | nil => simp at hne
  | cons r rest ih =>
    have hr := hlen r (hv r List.mem_cons_self)
    rw [readLength_cons]
    cases rest with
    | nil => simp only [readLength,List.map_nil,List.sum_nil]; omega
    | cons q tail =>
      have ht := ih (by simp) fun q hq => hv q (List.mem_cons_of_mem _ hq)
      omega

theorem writeLength_bound {subrequests : List (FileRecordRequest × List Word)}
    (hne : 0 < subrequests.length) (hv : ∀ r ∈ subrequests, r.1.Valid) :
    9 ≤ writeLength subrequests := by
  cases subrequests with
  | nil => simp at hne
  | cons r rest =>
    have h := (hv r List.mem_cons_self).range
    simp only [fileRecordRangeIsValid,decide_eq_true_eq] at h
    rw [writeLength_cons]
    omega

theorem length_le_writeLength (subrequests : List (FileRecordRequest × List Word)) :
    subrequests.length ≤ writeLength subrequests := by
  induction subrequests with
  | nil => simp
  | cons r rest ih =>
    rw [writeLength_cons,List.length_cons]
    omega

theorem setWidth_toNat (b : Byte) : (b.setWidth 16).toNat = b.toNat := by
  simp only [BitVec.toNat_setWidth]
  omega

theorem ofNat16_toNat {n : Nat} (h : n ≤ 300) : (BitVec.ofNat 16 n).toNat = n := by
  rw [BitVec.toNat_ofNat]
  omega

theorem ofNat16_ne_zero {n : Nat} (h0 : 0 < n) (h : n ≤ 300) : BitVec.ofNat 16 n ≠ 0#16 := by
  intro he
  have hn := congrArg BitVec.toNat he
  rw [ofNat16_toNat h] at hn
  simp at hn
  omega

/-- The descriptor check accepts the descriptor of a well-formed request. -/
theorem validateFunctionFields_descriptor (h : w.WellFormed a) :
    validateFunctionFields (w.descriptor a) = .ok := by
  cases w with
  | read f start quantity =>
    obtain ⟨-,hr,⟨hf,hq⟩ | ⟨hf,hq⟩⟩ := h
    all_goals
      simp only [List.mem_cons,List.not_mem_nil,or_false] at hf
      rcases hf with rfl | rfl <;>
        simp [validateFunctionFields,descriptor,finishRequest,quantityIsBad_of_valid hr hq]
  | writeSingle f address value =>
    obtain ⟨-,⟨rfl,hv⟩ | rfl⟩ := h
    · rcases hv with rfl | rfl <;> rfl
    · rfl
  | maskWriteRegister => rfl
  | writeMultipleCoils start quantity packed =>
    obtain ⟨-,hr,hq,-⟩ := h
    simp [validateFunctionFields,descriptor,finishRequest,quantityIsBad_of_valid hr hq]
  | writeMultipleRegisters start quantity values =>
    obtain ⟨-,hr,hq,-⟩ := h
    simp [validateFunctionFields,descriptor,finishRequest,quantityIsBad_of_valid hr hq]
  | readWriteMultipleRegisters readStart readQuantity writeStart writeQuantity values =>
    obtain ⟨-,hr,hrq,hw,hwq,-⟩ := h
    have hr0 := quantityIsBad_of_valid hr hrq
    have hw0 := quantityIsBad_of_valid hw hwq
    simp only [quantityIsBad,decide_eq_false_iff_not,not_or,not_not] at hr0 hw0
    simp [validateFunctionFields,descriptor,finishRequest,hr0,hw0]
  | readFileRecord subrequests =>
    obtain ⟨-,hne,hc,hv,hl⟩ := h
    obtain ⟨h4,h2⟩ := readLength_bounds hne hv
    have h7 : subrequests.length*7%65536 = subrequests.length*7 := Nat.mod_eq_of_lt (by omega)
    simp [validateFunctionFields,descriptor,finishRequest,ofNat16_ne_zero hne (by omega),h7]
    refine ⟨List.ne_nil_of_length_pos hne,?_⟩
    omega
  | writeFileRecord subrequests =>
    obtain ⟨-,hne,hc,hv,hl⟩ := h
    have h9 := writeLength_bound hne fun r hr => (hv r hr).1
    simp [validateFunctionFields,descriptor,finishRequest,ofNat16_ne_zero hne (by omega)]
    omega
  | readFifoQueue => rfl
  | mei meiType data =>
    obtain ⟨-,ht,hd⟩ := h
    have hne : meiType.setWidth 16 ≠ 0x0E#16 := by
      intro he
      simp [meiTypeIsGeneric,he] at ht
    simp [validateFunctionFields,descriptor,finishRequest,hne,ht]
    omega
  | readDeviceIdentification readCode objectId =>
    simp [validateFunctionFields,descriptor,finishRequest,h.2]
    omega
  | status f =>
    obtain ⟨-,hf⟩ := h
    simp only [List.mem_cons,List.not_mem_nil,or_false] at hf
    rcases hf with rfl | rfl | rfl <;> rfl
  | reportServerId expected =>
    obtain ⟨-,hz,hq⟩ := h
    simp [validateFunctionFields,descriptor,finishRequest,hz]
    omega
  | diagnostics subfunction data =>
    obtain ⟨hs,hd,h2,-,hdata⟩ := h
    by_cases hz : subfunction = 0x0000#16
    · simp [validateFunctionFields,descriptor,finishRequest,hz,h2]
      exact ⟨by rw [← hz]; exact hs,by omega⟩
    · simp [validateFunctionFields,descriptor,finishRequest,hs,hz,(hdata hz).1]

theorem unicast_of_answered (h : w.WellFormed a) (ha : w.answered a = true) :
    unicastAddressIsValid a = true := by
  have hw : writeAddressIsValid a = true → a ≠ 0#8 → unicastAddressIsValid a = true := by
    simp only [writeAddressIsValid,decide_eq_true_eq]
    exact fun h hne => h.resolve_left hne
  cases w with
  | writeSingle | writeMultipleCoils | writeMultipleRegisters | writeFileRecord =>
    exact hw h.1 (of_decide_eq_true ha)
  | maskWriteRegister => exact hw h (of_decide_eq_true ha)
  | readFifoQueue => exact h
  | diagnostics => exact h.2.2.2.1.resolve_right fun hz => (of_decide_eq_true ha).1 hz.1
  | _ => exact h.1

theorem validateRequestDescriptor_descriptor (h : w.WellFormed a) :
    validateRequestDescriptor (w.descriptor a) =
      if w.answered a = true then .ok else .errorResponseNotExpected := by
  unfold validateRequestDescriptor
  rw [descriptor_expectsResponse,descriptor_slaveAddress,validateFunctionFields_descriptor h]
  by_cases ha : w.answered a = true
  · simp [ha,unicast_of_answered h ha]
  · simp [ha]

structure Framed (w : WireRequest) (a : Byte) (m : Mem Byte) (length : Nat) : Prop where
  address : m 0 = a
  function : m 1 = w.function
  body : Stored m 2 w.body
  length_eq : length = w.body.length+4
  crcLow : m (length-2) = loByte (mbCrc16 m (length-2))
  crcHigh : m (length-1) = hiByte (mbCrc16 m (length-2))
  residue : mbCrc16 m length = 0#16

theorem framed {m : Mem Byte} (h : Stored m 0 (appendCrc (w.frame a))) :
    w.Framed a m (appendCrc (w.frame a)).length := by
  have hr := mbCrc16_appendCrc h
  obtain ⟨hs,h0,h1⟩ := stored_appendCrc.mp h
  simp only [frame,pdu,stored_cons,Nat.zero_add,Nat.reduceAdd] at hs
  rw [appendCrc_length]
  exact ⟨hs.1,hs.2.1,hs.2.2,rfl,h0,h1,hr⟩

theorem loByte_ofNat {n : Nat} : loByte (BitVec.ofNat 16 n) = BitVec.ofNat 8 n := by
  apply BitVec.eq_of_toNat_eq
  rw [loByte_toNat,BitVec.toNat_ofNat,BitVec.toNat_ofNat]
  omega

theorem loByte_setWidth (b : Byte) : loByte (b.setWidth 16) = b := by
  apply BitVec.eq_of_toNat_eq
  rw [loByte_toNat,setWidth_toNat]
  omega

theorem diagnosticData_stored {subfunction : Word} {data : List Byte} {m : Mem Byte}
    (hs : subfunction ≠ 0x0000#16)
    (hdata : subfunction ≠ 0x0000#16 → data.length = 2 ∧
      diagnosticDataIsValid subfunction (readBe16 (ofList data)) = true) (hstored : Stored m 4 data) :
    diagnosticDataIsValid subfunction (be16 (m 4) (m 5)) = true := by
  obtain ⟨h2,hword⟩ := hdata hs
  have h4 := hstored.ofList_eq 0 (by omega)
  have h5 := hstored.ofList_eq 1 (by omega)
  simpa only [readBe16,h4,h5] using hword

section Checks
variable {m : Mem Byte} {length : Nat} (h : w.WellFormed a) (hf : w.Framed a m length)
include h hf

theorem originalRequestAduIsValid_descriptor :
    originalRequestAduIsValid (w.descriptor a) (some m) length = true := by
  have hlen := body_length_le h
  have hhead : ¬ (length < 4 ∨ 256 < length ∨ mbCrc16 m length ≠ 0#16 ∨ m 0 ≠ a ∨
      m 1 ≠ w.function) := by
    have := hf.length_eq
    simp only [hf.residue,hf.address,hf.function,ne_eq,not_true_eq_false,or_false]
    omega
  have hbody := hf.body
  have hl := hf.length_eq
  unfold originalRequestAduIsValid
  simp only [descriptor_slaveAddress,descriptor_function,hhead,if_false]
  cases w with
  | readFileRecord subrequests =>
    obtain ⟨-,hne,hc,hv,hr⟩ := h
    simp only [body,List.cons_append,List.nil_append,stored_cons,List.length_cons,
      flatMap_encode_length] at hbody hl
    have h7 : (BitVec.ofNat 16 (subrequests.length*7)).toNat = subrequests.length*7 :=
      ofNat16_toNat (by omega)
    have hq : (BitVec.ofNat 16 (readLength subrequests)).toNat = readLength subrequests :=
      ofNat16_toNat (by omega)
    have hscan := scanReadSubrequests_encode (length-2) subrequests length 3 0 0 hbody.2
      (by omega) (by omega) hv (by omega)
    have hlen5 : length = 5+subrequests.length*7 := by omega
    simp [descriptor,finishRequest,function,h7,hq,hscan,hbody.1,loByte_ofNat,← hlen5]
  | writeFileRecord subrequests =>
    obtain ⟨-,hne,hc,hv,hw⟩ := h
    simp only [body,List.cons_append,List.nil_append,stored_cons,List.length_cons,
      flatMap_encodeWrite_length _ fun r hr => (hv r hr).2] at hbody hl
    have h7 : (BitVec.ofNat 16 (writeLength subrequests)).toNat = writeLength subrequests :=
      ofNat16_toNat (by omega)
    have hq : (BitVec.ofNat 16 subrequests.length).toNat = subrequests.length :=
      ofNat16_toNat (by omega)
    have hcount := length_le_writeLength subrequests
    have hscan := scanWriteSubrequests_encode (length-2) subrequests (length-2) 3 0
      hbody.2 (by omega) (by omega) hv
    have hlen5 : length = 5+writeLength subrequests := by omega
    simp [descriptor,finishRequest,function,h7,hq,hscan,hbody.1,loByte_ofNat,← hlen5]
  | mei meiType data =>
    obtain ⟨-,ht,hd⟩ := h
    have hne : meiType.setWidth 16 ≠ 0x0E#16 := by
      intro he
      simp [meiTypeIsGeneric,he] at ht
    simp only [body,stored_cons,List.length_cons] at hbody hl
    have hq : (BitVec.ofNat 16 data.length).toNat = data.length := ofNat16_toNat (by omega)
    simp [descriptor,finishRequest,function,hne,hq,hbody.1,loByte_setWidth,hl]
    omega
  | readDeviceIdentification readCode objectId =>
    simp only [body,stored_cons,List.length_cons,List.length_nil] at hbody hl
    simp [descriptor,finishRequest,function,hbody,loByte_setWidth,hl]
  | diagnostics subfunction data =>
    obtain ⟨-,hd,-,-,hdata⟩ := h
    simp only [body,writeBe16,List.cons_append,List.nil_append,stored_cons,List.length_cons]
      at hbody hl
    have hq : (BitVec.ofNat 16 data.length).toNat = data.length := ofNat16_toNat (by omega)
    have hlen6 : length = 6+data.length := by omega
    by_cases hs : subfunction = 0x0000#16
    · simp [descriptor,finishRequest,function,hq,hbody.1,hbody.2.1,← hlen6,hs]
    · have hword := diagnosticData_stored hs hdata hbody.2.2
      simp [descriptor,finishRequest,function,hq,hbody.1,hbody.2.1,← hlen6,hs,hword]
  | read f start quantity =>
    obtain ⟨-,-,⟨hm,-⟩ | ⟨hm,-⟩⟩ := h
    all_goals
      simp only [List.mem_cons,List.not_mem_nil,or_false] at hm
      rcases hm with rfl | rfl <;> rfl
  | writeSingle f address value =>
    obtain ⟨-,⟨rfl,-⟩ | rfl⟩ := h <;> rfl
  | status f =>
    have hm := h.2
    simp only [List.mem_cons,List.not_mem_nil,or_false] at hm
    rcases hm with rfl | rfl | rfl <;> rfl
  | _ => rfl

theorem functionFieldsMatch_descriptor :
    functionFieldsMatch (w.descriptor a) m length = true := by
  have hbody := hf.body
  have hl := hf.length_eq
  unfold functionFieldsMatch
  rw [descriptor_function]
  cases w with
  | read f start quantity =>
    obtain ⟨-,-,⟨hm,-⟩ | ⟨hm,-⟩⟩ := h
    all_goals
      simp only [List.mem_cons,List.not_mem_nil,or_false] at hm
      rcases hm with rfl | rfl <;> rfl
  | writeSingle f address value =>
    obtain ⟨-,⟨rfl,-⟩ | rfl⟩ := h <;> rfl
  | writeMultipleCoils | writeMultipleRegisters => rfl
  | maskWriteRegister address andMask orMask =>
    simp only [body,writeBe16,List.cons_append,List.nil_append,stored_cons,List.length_cons,
      List.length_nil] at hbody hl
    by_cases ha : a = 0#8 <;>
      simp [function,maskWriteMatches,descriptor,finishRequest,wordAt,hbody,hl,
        expectedUnlessBroadcast,ha]
  | readWriteMultipleRegisters readStart readQuantity writeStart writeQuantity values =>
    obtain ⟨hu,hr,hrq,hw,hwq,hlen⟩ := h
    have ha := unicast_ne_zero hu
    have hr0 := addressRange_ne_zero hr
    have hw0 := addressRange_ne_zero hw
    simp only [addressRangeIsValid,decide_eq_true_eq] at hr hw
    simp only [body,writeBe16,List.cons_append,List.nil_append,stored_cons,List.length_cons,
      encodeWords_length,hlen] at hbody hl
    simp [function,readWriteMatches,descriptor,finishRequest,wordAt,hbody,ha]
    exact ⟨⟨hr0,hrq,hw0,hwq,hr.2,hw.2⟩,by omega,by omega⟩
  | readFileRecord subrequests =>
    obtain ⟨hu,hne,hc,hv,hr⟩ := h
    have ha := unicast_ne_zero hu
    simp only [body,List.cons_append,List.nil_append,stored_cons,List.length_cons,
      flatMap_encode_length] at hbody hl
    have h7 : (BitVec.ofNat 16 (subrequests.length*7)).toNat = subrequests.length*7 :=
      ofNat16_toNat (by omega)
    have hq : (BitVec.ofNat 16 (readLength subrequests)).toNat = readLength subrequests :=
      ofNat16_toNat (by omega)
    have hn : (BitVec.ofNat 16 subrequests.length).toNat = subrequests.length :=
      ofNat16_toNat (by omega)
    have hscan := scanReadSubrequests_encode (length-2) subrequests length 3 0 0 hbody.2
      (by omega) (by omega) hv (by omega)
    have hlen5 : length = 5+subrequests.length*7 := by omega
    obtain ⟨h4,-⟩ := readLength_bounds hne hv
    simp [function,readFileRecordMatches,descriptor,finishRequest,h7,hq,hn,hscan,hbody.1,
      loByte_ofNat,← hlen5,ha,ofNat16_ne_zero hne (by omega)]
    exact ⟨List.ne_nil_of_length_pos hne,by omega,h4,hr,hc⟩
  | writeFileRecord subrequests =>
    obtain ⟨-,hne,hc,hv,hw⟩ := h
    simp only [body,List.cons_append,List.nil_append,stored_cons,List.length_cons,
      flatMap_encodeWrite_length _ fun r hr => (hv r hr).2] at hbody hl
    have h7 : (BitVec.ofNat 16 (writeLength subrequests)).toNat = writeLength subrequests :=
      ofNat16_toNat (by omega)
    have hq : (BitVec.ofNat 16 subrequests.length).toNat = subrequests.length :=
      ofNat16_toNat (by omega)
    have hcount := length_le_writeLength subrequests
    have h9 := writeLength_bound hne fun r hr => (hv r hr).1
    have hscan := scanWriteSubrequests_encode (length-2) subrequests (length-2) 3 0
      hbody.2 (by omega) (by omega) hv
    have hlen5 : length = 5+writeLength subrequests := by omega
    by_cases ha : a = 0#8 <;>
      simp [function,writeFileRecordMatches,descriptor,finishRequest,h7,hq,hscan,hbody.1,
        loByte_ofNat,← hlen5,expectedUnlessBroadcast,ofNat16_ne_zero hne (by omega),ha,h9,hw,hc]
  | readFifoQueue pointerAddress =>
    have ha := unicast_ne_zero h
    simp only [body,writeBe16,stored_cons,List.length_cons,List.length_nil] at hbody hl
    simp [function,readFifoMatches,descriptor,finishRequest,wordAt,hbody,hl,ha]
  | mei meiType data =>
    obtain ⟨hu,ht,hd⟩ := h
    have ha := unicast_ne_zero hu
    have hne : meiType.setWidth 16 ≠ 0x0D#16 ∧ meiType.setWidth 16 ≠ 0x0E#16 := by
      simp only [meiTypeIsGeneric,decide_eq_true_eq] at ht
      exact ht.2
    simp only [body,stored_cons,List.length_cons] at hbody hl
    have hq : (BitVec.ofNat 16 data.length).toNat = data.length := ofNat16_toNat (by omega)
    simp [function,meiMatches,descriptor,finishRequest,hne.1,hne.2,hq,hbody.1,loByte_setWidth,hl,ha]
    omega
  | readDeviceIdentification readCode objectId =>
    obtain ⟨hu,hcode⟩ := h
    have ha := unicast_ne_zero hu
    simp only [deviceIdCodeIsValid,decide_eq_true_eq,setWidth_toNat] at hcode
    simp only [body,stored_cons,List.length_cons,List.length_nil] at hbody hl
    simp [function,meiMatches,descriptor,finishRequest,hbody,loByte_setWidth,hl,ha]
    omega
  | status f =>
    obtain ⟨hu,hm⟩ := h
    have ha := unicast_ne_zero hu
    simp only [body,List.length_nil] at hl
    simp only [List.mem_cons,List.not_mem_nil,or_false] at hm
    rcases hm with rfl | rfl | rfl <;>
      simp [function,statusMatches,descriptor,finishRequest,ha,hl]
  | reportServerId expected =>
    obtain ⟨hu,hz,hq⟩ := h
    have ha := unicast_ne_zero hu
    simp only [body,List.length_nil] at hl
    simp [function,serverIdMatches,descriptor,finishRequest,ha,hl,hz,hq]
  | diagnostics subfunction data =>
    obtain ⟨hs,hd,h2,haddr,hdata⟩ := h
    simp only [body,writeBe16,List.cons_append,List.nil_append,stored_cons,List.length_cons]
      at hbody hl
    have hq : (BitVec.ofNat 16 data.length).toNat = data.length := ofNat16_toNat (by omega)
    have hlen6 : length = 6+data.length := by omega
    have hchange : ¬ (a = 0#8 ∧ diagnosticSubfunctionIsStateChanging subfunction = false) := by
      rintro ⟨rfl,hc⟩
      simp [unicastAddressIsValid,hc] at haddr
    have hd' : ¬ 250 < data.length := by omega
    by_cases hz : subfunction = 0x0000#16
    · rw [hz] at hs hchange
      simp [function,diagnosticsMatches,descriptor,finishRequest,wordAt,hs,hq,hbody.1,hbody.2.1,
        ← hlen6,h2,hz,hd',hchange]
    · have hword := diagnosticData_stored hz hdata hbody.2.2
      have h2' := (hdata hz).1
      have hq2 : BitVec.ofNat 16 data.length = 2#16 := by rw [h2']
      have h8 : length = 8 := by omega
      simp [function,diagnosticsMatches,descriptor,finishRequest,wordAt,hs,hbody.1,hbody.2.1,
        h8,hz,hchange,hword,hq2]

theorem requestAduMatchesDescriptor_descriptor :
    requestAduMatchesDescriptor (w.descriptor a) m length = true := by
  have ha := address_le h
  have hl := hf.length_eq
  have hsize : ¬ (247 < a.toNat ∨ length < 4) := by omega
  have hexpect : ¬ (a = 0#8 ∧ (w.descriptor a).expectsResponse ≠ 0#8) := by
    rintro ⟨rfl,hne⟩
    rw [descriptor_expectsResponse] at hne
    cases w <;> simp [answered] at hne
  unfold requestAduMatchesDescriptor
  simp only [descriptor_slaveAddress,descriptor_function,hsize,hexpect,hf.address,hf.function,
    functionFieldsMatch_descriptor h hf,ne_eq,not_true_eq_false,or_self,if_false,
    decide_eq_true_eq]
  exact ⟨hf.crcLow,hf.crcHigh⟩

end Checks

end WireRequest

/-! A builder that fails leaves nothing behind. -/

def BuiltRequest.Clean (b : BuiltRequest) : Prop := b.result ≠ .ok → b.request = .cleared ∧ b.adu = []

section Clean
variable {out : RequestBuffer}

@[simp] theorem clean_refuse (e : MasterResult) : (BuiltRequest.refuse e).Clean :=
  fun _ => ⟨rfl,rfl⟩

@[simp] theorem clean_emitRequest (length : Nat) (adu : List Byte) (request : Request) :
    (emitRequest out length adu request).Clean := by
  unfold emitRequest
  split
  · exact clean_refuse _
  · exact fun h => absurd rfl h

@[simp] theorem clean_buildFixedRequest (a f : Byte) (first second quantity value : Word) :
    (buildFixedRequest a f first second quantity value out).Clean := by
  unfold buildFixedRequest
  split <;> simp

@[simp] theorem clean_buildReadRequest (functions : List Byte) (limit : Nat) (a f : Byte)
    (start quantity : Word) : (buildReadRequest functions limit a f start quantity out).Clean := by
  unfold buildReadRequest
  split_ifs <;> simp

@[simp] theorem clean_buildFunctionOnlyRequest (a f : Byte) :
    (buildFunctionOnlyRequest a f out).Clean := by
  unfold buildFunctionOnlyRequest
  split_ifs <;> simp

theorem BuildCall.build_clean (call : BuildCall) (out : RequestBuffer) :
    (call.build out).Clean := by
  cases call with
  | readBits | readRegisters => simp [build,buildReadBitsRequest,buildReadRegistersRequest]
  | readExceptionStatus => simp [build,buildReadExceptionStatusRequest]
  | getCommEventCounter => simp [build,buildGetCommEventCounterRequest]
  | getCommEventLog => simp [build,buildGetCommEventLogRequest]
  | writeSingleCoil =>
    simp only [build,buildWriteSingleCoilRequest]
    split_ifs <;> simp
  | writeSingleRegister =>
    simp only [build,buildWriteSingleRegisterRequest]
    split_ifs <;> simp
  | maskWriteRegister =>
    simp only [build,buildMaskWriteRegisterRequest]
    split_ifs <;> simp
  | writeMultipleCoils a start quantity packedValues =>
    cases packedValues with
    | none => exact clean_refuse _
    | some packedValues =>
      simp only [build,buildWriteMultipleCoilsRequest]
      split_ifs <;> simp
  | writeMultipleRegisters a start quantity values =>
    cases values with
    | none => exact clean_refuse _
    | some values =>
      simp only [build,buildWriteMultipleRegistersRequest]
      split_ifs <;> simp
  | readWriteMultipleRegisters a readStart readQuantity writeStart writeQuantity values =>
    cases values with
    | none => exact clean_refuse _
    | some values =>
      simp only [build,buildReadWriteMultipleRegistersRequest]
      split_ifs <;> simp
  | readFileRecord a subrequests count =>
    cases subrequests with
    | none => exact clean_refuse _
    | some subrequests =>
      simp only [build,buildReadFileRecordRequest]
      cases checkReadSubrequests (slice subrequests 0 count) 0 <;> split_ifs <;> simp
  | writeFileRecord a subrequests count =>
    cases subrequests with
    | none => exact clean_refuse _
    | some subrequests =>
      simp only [build,buildWriteFileRecordRequest]
      cases checkWriteSubrequests (slice subrequests 0 count) 0 <;> split_ifs <;> simp
  | readFifoQueue =>
    simp only [build,buildReadFifoQueueRequest]
    split_ifs <;> simp
  | mei =>
    simp only [build,buildMeiRequest]
    split_ifs <;> simp
  | readDeviceIdentification =>
    simp only [build,buildReadDeviceIdentificationRequest]
    split_ifs <;> simp
  | reportServerId a expected =>
    simp only [build,buildReportServerIdRequest]
    split_ifs with hq hr
    · simp
    · exact fun h => absurd hr h
    · simp
  | diagnostics =>
    simp only [build,buildDiagnosticsRequest]
    split_ifs <;> simp

end Clean

structure Accepted (request : Request) (adu : List Byte) : Prop where
  length_ge : 4 ≤ adu.length
  length_le : adu.length ≤ 256
  starts : ∀ (t : Transaction) (m : Mem Byte) (now : Word32) (transportResult : Int),
    t.isInitialized = true → stateIsActive t.state = false → Stored m 0 adu →
    (t.start (some request) (some m) adu.length now transportResult).1.1 = .ok
  original : ∀ m : Mem Byte, Stored m 0 adu →
    originalRequestAduIsValid request (some m) adu.length = true
  answered : request.expectsResponse = 1#8 → validateRequestDescriptor request = .ok
  unanswered : request.expectsResponse = 0#8 →
    validateRequestDescriptor request = .errorResponseNotExpected
  expects : request.expectsResponse = 0#8 ∨ request.expectsResponse = 1#8

theorem accepted_of_wellFormed {a : Byte} {w : WireRequest} (h : w.WellFormed a) :
    Accepted (w.descriptor a) (appendCrc (w.frame a)) := by
  have hl := WireRequest.body_length_le h
  have hlength : (appendCrc (w.frame a)).length = w.body.length+4 := appendCrc_length _
  have hexpects := WireRequest.descriptor_expectsResponse (a := a) (w := w)
  have hvalidate := WireRequest.validateRequestDescriptor_descriptor h
  refine ⟨by omega,by omega,?_,?_,?_,?_,?_⟩
  · intro t m now transportResult hi hs hm
    have hsize : ¬ ((appendCrc (w.frame a)).length = 0 ∨
        256 < (appendCrc (w.frame a)).length) := by omega
    have hmatch := WireRequest.requestAduMatchesDescriptor_descriptor h (WireRequest.framed hm)
    simp only [Transaction.start,hi,hs,hsize,hmatch,Transaction.beginTransmit,Bool.false_eq_true,
      not_true_eq_false,if_false]
  · intro m hm
    exact WireRequest.originalRequestAduIsValid_descriptor h (WireRequest.framed hm)
  · intro he
    rw [hexpects] at he
    split at he
    · rename_i ha
      rw [hvalidate,if_pos ha]
    · cases he
  · intro he
    rw [hexpects] at he
    split at he
    · cases he
    · rename_i ha
      rw [hvalidate,if_neg ha]
  · rw [hexpects]
    split <;> simp

/-- What a builder returns: an accepted request within the buffer, or nothing. -/
theorem build_accepted (call : BuildCall) (out : RequestBuffer) :
    ((call.build out).result = .ok → (call.build out).adu.length ≤ out.capacity ∧
      Accepted (call.build out).request (call.build out).adu) ∧
    ((call.build out).result ≠ .ok →
      (call.build out).request = .cleared ∧ (call.build out).adu = []) := by
  refine ⟨fun h => ?_,call.build_clean out⟩
  have hb := call.build_ok h
  rw [hb.built]
  exact ⟨(appendCrc_length _).trans_le hb.fits,accepted_of_wellFormed hb.wellFormed⟩

end ModbusStack
