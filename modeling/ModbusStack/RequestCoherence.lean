import ModbusStack.RequestChecks
import ModbusStack.TransactionRuns

/-! Which requests the transaction engine accepts: for the functions that its check knows they
are requests of the builders, for the others they need not be. -/
set_option autoImplicit false

namespace ModbusStack
open ByteMemory

/-! The walks over sub-requests find valid sub-requests only. -/

theorem readSubrequest_encode (m : Mem Byte) (offset : Nat)
    (h : (readSubrequest m offset).referenceType = 0x06#8) :
    Stored m offset (FileRecordRequest.encode ⟨(readSubrequest m offset).fileNumber,
      (readSubrequest m offset).recordNumber,(readSubrequest m offset).recordLength⟩) := by
  have h0 : m offset = 0x06#8 := h
  simp [FileRecordRequest.encode,writeBe16,readSubrequest,h0,Nat.add_assoc]

theorem scanReadSubrequests_sound {m : Mem Byte} {dataEnd fuel offset total count n c : Nat}
    (htotal : total ≤ 245)
    (h : scanReadSubrequests m dataEnd fuel offset total count = some (n,c)) :
    ∃ subrequests : List FileRecordRequest,
      Stored m offset (subrequests.flatMap FileRecordRequest.encode) ∧
      (∀ r ∈ subrequests, r.Valid) ∧ n = total+WireRequest.readLength subrequests ∧ n ≤ 245 ∧
      c = count+subrequests.length := by
  induction fuel generalizing offset total count with
  | zero =>
    cases h
    exact ⟨[],rfl,by simp,by simp [WireRequest.readLength],htotal,rfl⟩
  | succ fuel ih =>
    unfold scanReadSubrequests at h
    dsimp only at h
    split_ifs at h with h1 h2 h3 h4
    · simp only [not_not,not_or,Nat.not_lt] at h2 h3 h4
      obtain ⟨rest,hs,hv,hn,hle,hc⟩ := ih (by omega) h
      refine ⟨⟨(readSubrequest m offset).fileNumber,(readSubrequest m offset).recordNumber,
        (readSubrequest m offset).recordLength⟩ :: rest,?_,?_,?_,hle,?_⟩
      · rw [List.flatMap_cons,stored_append]
        exact ⟨readSubrequest_encode m offset h2,hs⟩
      · simp only [List.mem_cons,forall_eq_or_imp]
        exact ⟨⟨h3.1,h3.2⟩,hv⟩
      · rw [WireRequest.readLength_cons]
        dsimp only
        omega
      · rw [List.length_cons]
        omega
    · cases h
      exact ⟨[],rfl,by simp,by simp [WireRequest.readLength],htotal,rfl⟩

theorem scanWriteSubrequests_sound {m : Mem Byte} {dataEnd fuel offset count e c : Nat}
    (h : scanWriteSubrequests m dataEnd fuel offset count = some (e,c)) :
    ∃ subrequests : List (FileRecordRequest × List Word),
      Stored m offset (subrequests.flatMap encodeWriteSubrequest) ∧
      (∀ r ∈ subrequests, r.1.Valid ∧ r.2.length = r.1.recordLength.toNat) ∧
      e = offset+WireRequest.writeLength subrequests ∧ c = count+subrequests.length := by
  induction fuel generalizing offset count with
  | zero =>
    cases h
    exact ⟨[],rfl,by simp,by simp [WireRequest.writeLength],rfl⟩
  | succ fuel ih =>
    unfold scanWriteSubrequests at h
    dsimp only at h
    split_ifs at h with h1 h2 h3 h4
    · simp only [not_not,not_or,Nat.not_lt] at h2 h3 h4
      obtain ⟨rest,hs,hv,he,hc⟩ := ih h
      let r : FileRecordRequest := ⟨(readSubrequest m offset).fileNumber,
        (readSubrequest m offset).recordNumber,(readSubrequest m offset).recordLength⟩
      let words := wordsAt m (offset+7) (readSubrequest m offset).recordLength.toNat
      have hlen : (encodeWriteSubrequest (r,words)).length =
          7+(readSubrequest m offset).recordLength.toNat*2 := by
        simp only [encodeWriteSubrequest,List.length_append,r.encode_length,encodeWords_length,
          words,wordsAt_length]
        omega
      refine ⟨(r,words) :: rest,?_,?_,?_,?_⟩
      · rw [List.flatMap_cons,stored_append,hlen,encodeWriteSubrequest,stored_append]
        exact ⟨⟨readSubrequest_encode m offset h2.2,stored_wordsAt m (offset+7) _⟩,hs⟩
      · simp only [List.mem_cons,forall_eq_or_imp]
        exact ⟨⟨⟨h3.1,h3.2⟩,wordsAt_length _ _ _⟩,hv⟩
      · rw [WireRequest.writeLength_cons]
        dsimp only [r]
        omega
      · rw [List.length_cons]
        omega
    · cases h
      exact ⟨[],rfl,by simp,by simp [WireRequest.writeLength],rfl⟩

attribute [ext] Request

structure Describes (request : Request) (m : Mem Byte) (length : Nat) (w : WireRequest) : Prop where
  wellFormed : w.WellFormed request.slaveAddress
  descriptor : request = w.descriptor request.slaveAddress
  body : Stored m 2 w.body
  length_eq : length = w.body.length+4

theorem unicast_of_le {a : Byte} (h0 : a ≠ 0#8) (h : a.toNat ≤ 247) :
    unicastAddressIsValid a = true := by
  have hpos : a.toNat ≠ 0 := fun hz => h0 (BitVec.eq_of_toNat_eq hz)
  simp only [unicastAddressIsValid,decide_eq_true_eq]
  omega

theorem write_of_le {a : Byte} (h : a.toNat ≤ 247) : writeAddressIsValid a = true := by
  by_cases h0 : a = 0#8
  · simp [writeAddressIsValid,h0]
  · simp [writeAddressIsValid,unicast_of_le h0 h]

theorem expectedUnlessBroadcast_eq (request : Request) :
    expectedUnlessBroadcast request = if request.slaveAddress = 0#8 then 0#8 else 1#8 := by
  simp [expectedUnlessBroadcast]

theorem wordAt_stored {m : Mem Byte} {offset : Nat} {value : Word}
    (h : wordAt m offset value = true) : Stored m offset (writeBe16 value) := by
  simp only [wordAt,decide_eq_true_eq] at h
  simp [writeBe16,h.1,h.2]

theorem expects_unicast {request : Request} (h0 : request.slaveAddress ≠ 0#8)
    (he : request.expectsResponse = 1#8) :
    request.expectsResponse = if request.slaveAddress = 0#8 then 0#8 else 1#8 := by
  rw [if_neg h0,he]

theorem range_of_le {start quantity : Word} (h0 : quantity ≠ 0#16)
    (h : start.toNat+quantity.toNat ≤ 65536) : addressRangeIsValid start quantity = true := by
  have hpos : quantity.toNat ≠ 0 := fun hz => h0 (BitVec.eq_of_toNat_eq hz)
  simp only [addressRangeIsValid,decide_eq_true_eq]
  omega

theorem setWidth_loByte {v : Word} (h : v.toNat ≤ 255) : (loByte v).setWidth 16 = v := by
  apply BitVec.eq_of_toNat_eq
  rw [WireRequest.setWidth_toNat,loByte_toNat]
  omega

section Functions
variable {request : Request} {m : Mem Byte} {length : Nat}
  (haddress : request.slaveAddress.toNat ≤ 247)
include haddress

theorem maskWrite_describes (hf : request.function = 0x16#8)
    (h : maskWriteMatches request m length = true) :
    Describes request m length
      (.maskWriteRegister request.startAddress request.quantity request.value) := by
  simp only [maskWriteMatches,decide_eq_true_eq,expectedUnlessBroadcast_eq] at h
  obtain ⟨he,hws,hwq,hlen,h2,h4,h6⟩ := h
  refine ⟨write_of_le haddress,Request.ext rfl hf rfl rfl rfl he hws hwq,?_,hlen⟩
  simp only [WireRequest.body,stored_append]
  exact ⟨⟨wordAt_stored h2,wordAt_stored h4⟩,wordAt_stored h6⟩

theorem readFifo_describes (hf : request.function = 0x18#8)
    (h : readFifoMatches request m length = true) :
    Describes request m length (.readFifoQueue request.startAddress) := by
  simp only [readFifoMatches,decide_eq_true_eq] at h
  obtain ⟨h0,he,hq,hv,hws,hwq,hlen,h2⟩ := h
  exact ⟨unicast_of_le h0 haddress,Request.ext rfl hf rfl hq hv (expects_unicast h0 he) hws hwq,
    wordAt_stored h2,hlen⟩

theorem serverId_describes (hf : request.function = 0x11#8)
    (h : serverIdMatches request length = true) :
    Describes request m length (.reportServerId request.quantity) := by
  simp only [serverIdMatches,decide_eq_true_eq] at h
  obtain ⟨h0,he,hs,hq0,hq,hv,hws,hwq,hlen⟩ := h
  exact ⟨⟨unicast_of_le h0 haddress,hq0,hq⟩,
    Request.ext rfl hf hs rfl hv (expects_unicast h0 he) hws hwq,stored_nil m 2,hlen⟩

/-- The two write fields are not looked at here. -/
theorem status_describes (hf : request.function ∈ [0x07#8,0x0B#8,0x0C#8])
    (h : statusMatches request length = true) (hws : request.writeStartAddress = 0#16)
    (hwq : request.writeQuantity = 0#16) :
    Describes request m length (.status request.function) := by
  simp only [statusMatches,decide_eq_true_eq] at h
  obtain ⟨h0,he,hs,hq,hv,hlen⟩ := h
  exact ⟨⟨unicast_of_le h0 haddress,hf⟩,
    Request.ext rfl rfl hs hq hv (expects_unicast h0 he) hws hwq,stored_nil m 2,hlen⟩

theorem readWrite_describes (hf : request.function = 0x17#8)
    (h : readWriteMatches request m length = true) :
    Describes request m length (.readWriteMultipleRegisters request.startAddress request.quantity
      request.writeStartAddress request.writeQuantity
      (wordsAt m 11 request.writeQuantity.toNat)) := by
  unfold readWriteMatches at h
  split at h
  · cases h
  rename_i hok
  simp only [not_or,not_not,Nat.not_lt] at hok
  obtain ⟨h0,he,hv,hq0,hq,hw0,hw,hr,hwr⟩ := hok
  simp only [decide_eq_true_eq] at h
  obtain ⟨hlen,h2,h4,h6,h8,h10⟩ := h
  refine ⟨⟨unicast_of_le h0 haddress,range_of_le hq0 hr,hq,range_of_le hw0 hwr,hw,by simp⟩,
    Request.ext rfl hf rfl rfl hv (expects_unicast h0 he) rfl rfl,?_,?_⟩
  · have hcount : m 10 = BitVec.ofNat 8 (request.writeQuantity.toNat*2) := by
      rw [← h10]
      simp
    simp only [WireRequest.body,stored_append,stored_cons,stored_nil,List.length_append,
      writeBe16_length,List.length_cons,List.length_nil,and_true]
    exact ⟨⟨⟨⟨⟨wordAt_stored h2,wordAt_stored h4⟩,wordAt_stored h6⟩,wordAt_stored h8⟩,hcount⟩,
      stored_wordsAt m 11 _⟩
  · simp only [WireRequest.body,List.length_append,writeBe16_length,List.length_cons,
      List.length_nil,encodeWords_length,wordsAt_length]
    omega

theorem mei_describes (hf : request.function = 0x2B#8) (h : meiMatches request m length = true) :
    ∃ w, Describes request m length w := by
  unfold meiMatches at h
  split at h
  · cases h
  rename_i hok
  simp only [not_or,not_not] at hok
  obtain ⟨h0,he,hws,hwq⟩ := hok
  split at h
  · rename_i hv
    simp only [decide_eq_true_eq] at h
    obtain ⟨h1,h4,hq,hlen,hm2,hm3,hm4⟩ := h
    have hs : request.startAddress = (m 3).setWidth 16 := by
      rw [hm3]
      exact (setWidth_loByte (by omega)).symm
    have hq' : request.quantity = (m 4).setWidth 16 := by
      rw [hm4]
      exact (setWidth_loByte hq).symm
    refine ⟨.readDeviceIdentification (m 3) (m 4),⟨unicast_of_le h0 haddress,?_⟩,
      Request.ext rfl hf hs hq' hv (expects_unicast h0 he) hws hwq,?_,hlen⟩
    · rw [← hs]
      simp only [deviceIdCodeIsValid,decide_eq_true_eq]
      omega
    · simp [WireRequest.body,hm2]
  · rename_i hv
    simp only [decide_eq_true_eq] at h
    obtain ⟨hv255,hvD,hs,hq,hlen,hm2⟩ := h
    have hv' : request.value = (m 2).setWidth 16 := by
      rw [hm2]
      exact (setWidth_loByte hv255).symm
    have hstart : request.startAddress =
        BitVec.ofNat 16 (slice m 3 request.startAddress.toNat).length := by simp
    refine ⟨.mei (m 2) (slice m 3 request.startAddress.toNat),
      ⟨unicast_of_le h0 haddress,?_,by simpa using hs⟩,
      Request.ext rfl hf hstart hq hv' (expects_unicast h0 he) hws hwq,?_,?_⟩
    · rw [← hv']
      simp [meiTypeIsGeneric,hv255,hvD,hv]
    · simp only [WireRequest.body,stored_cons,true_and]
      exact stored_slice m 3 _
    · simp only [WireRequest.body,List.length_cons,slice_length]
      omega

/-- The two write fields are not looked at here either. -/
theorem diagnostics_describes (hf : request.function = 0x08#8)
    (h : diagnosticsMatches request m length = true) (hws : request.writeStartAddress = 0#16)
    (hwq : request.writeQuantity = 0#16) :
    Describes request m length
      (.diagnostics request.startAddress (slice m 4 request.quantity.toNat)) := by
  unfold diagnosticsMatches at h
  generalize hx : (if request.slaveAddress ≠ 0#8 ∧ request.startAddress ≠ 0x0004#16 then 1#8
    else 0#8) = expects at h
  split at h
  · cases h
  rename_i hok
  split at h
  · cases h
  rename_i hbroadcast
  simp only [not_or,not_not,Nat.not_lt] at hok
  obtain ⟨hsub,hq,heven,hv,hlen,h2,he⟩ := hok
  have hquantity : request.quantity =
      BitVec.ofNat 16 (slice m 4 request.quantity.toNat).length := by simp
  refine ⟨⟨hsub,by simpa using hq,by simpa using heven,?_,?_⟩,
    Request.ext rfl hf rfl hquantity hv (he.trans hx.symm) hws hwq,?_,?_⟩
  · by_cases h0 : request.slaveAddress = 0#8
    · exact .inr ⟨h0,not_not.mp fun hc => hbroadcast ⟨h0,hc⟩⟩
    · exact .inl (unicast_of_le h0 haddress)
  · intro hs
    rw [if_neg hs] at h
    split at h
    · cases h
    · rename_i h2q
      rw [not_not.mp h2q]
      exact ⟨rfl,h⟩
  · simp only [WireRequest.body,stored_append,writeBe16_length]
    exact ⟨wordAt_stored h2,stored_slice m 4 _⟩
  · simp only [WireRequest.body,List.length_append,writeBe16_length,slice_length]
    omega

theorem readFileRecord_describes (hf : request.function = 0x14#8)
    (h : readFileRecordMatches request m length = true) : ∃ w, Describes request m length w := by
  unfold readFileRecordMatches at h
  split at h
  · cases h
  rename_i hok
  simp only [not_or,not_not,Nat.not_lt] at hok
  obtain ⟨h0,he,h7,h245,hmod,-,-,hv0,hv,hcount,hws,hwq,hlen,hm2⟩ := hok
  cases hscan : scanReadSubrequests m (length-2) length 3 0 0 with
  | none => simp [hscan] at h
  | some result =>
    obtain ⟨n,c⟩ := result
    simp only [hscan,decide_eq_true_eq] at h
    obtain ⟨hn,hc⟩ := h
    obtain ⟨subrequests,hstored,hvalid,htotal,hle,hlength⟩ :=
      scanReadSubrequests_sound (Nat.zero_le _) hscan
    have hsize : subrequests.length*7 = request.startAddress.toNat := by omega
    have hstart : request.startAddress = BitVec.ofNat 16 (subrequests.length*7) := by
      rw [hsize]
      simp
    have hquantity : request.quantity = BitVec.ofNat 16 (WireRequest.readLength subrequests) := by
      rw [show WireRequest.readLength subrequests = request.quantity.toNat by omega]
      simp
    have hvalue : request.value = BitVec.ofNat 16 subrequests.length := by
      rw [show subrequests.length = request.value.toNat by omega]
      simp
    refine ⟨.readFileRecord subrequests,
      ⟨unicast_of_le h0 haddress,by omega,by omega,hvalid,by omega⟩,
      Request.ext rfl hf hstart hquantity hvalue (expects_unicast h0 he) hws hwq,?_,?_⟩
    · simp only [WireRequest.body,List.cons_append,List.nil_append,stored_cons]
      exact ⟨by rw [hm2,hstart,WireRequest.loByte_ofNat],hstored⟩
    · simp only [WireRequest.body,List.length_append,flatMap_encode_length,List.length_cons,
        List.length_nil]
      omega

theorem writeFileRecord_describes (hf : request.function = 0x15#8)
    (h : writeFileRecordMatches request m length = true) : ∃ w, Describes request m length w := by
  unfold writeFileRecordMatches at h
  split at h
  · cases h
  rename_i hok
  simp only [not_or,not_not,Nat.not_lt,expectedUnlessBroadcast_eq] at hok
  obtain ⟨h9,h251,hq0,hq,hv,hws,hwq,he,hlen,hm2⟩ := hok
  dsimp only at h
  cases hscan : scanWriteSubrequests m (length-2) (length-2) 3 0 with
  | none => simp [hscan] at h
  | some result =>
    obtain ⟨e,c⟩ := result
    simp only [hscan,decide_eq_true_eq] at h
    obtain ⟨hend,hc⟩ := h
    obtain ⟨subrequests,hstored,hvalid,htotal,hlength⟩ := scanWriteSubrequests_sound hscan
    have hsize : WireRequest.writeLength subrequests = request.startAddress.toNat := by omega
    have hcount : subrequests.length = request.quantity.toNat := by omega
    have hpos : request.quantity.toNat ≠ 0 := fun hz => hq0 (BitVec.eq_of_toNat_eq hz)
    have hstart : request.startAddress = BitVec.ofNat 16 (WireRequest.writeLength subrequests) := by
      rw [hsize]
      simp
    have hquantity : request.quantity = BitVec.ofNat 16 subrequests.length := by
      rw [hcount]
      simp
    refine ⟨.writeFileRecord subrequests,
      ⟨write_of_le haddress,by omega,by omega,hvalid,by omega⟩,
      Request.ext rfl hf hstart hquantity hv he hws hwq,?_,?_⟩
    · simp only [WireRequest.body,List.cons_append,List.nil_append,stored_cons]
      exact ⟨by rw [hm2,hstart,WireRequest.loByte_ofNat],hstored⟩
    · simp only [WireRequest.body,List.length_append,List.length_cons,List.length_nil,
        flatMap_encodeWrite_length _ fun r hr => (hvalid r hr).2]
      omega

end Functions

/-! The builders make every well-formed request of these functions. -/

def fullBuffer : RequestBuffer := ⟨true,1,true,256⟩

def Buildable (a : Byte) (w : WireRequest) : Prop :=
  ∃ call : BuildCall, call.build fullBuffer = ⟨.ok,w.descriptor a,appendCrc (w.frame a)⟩

section Builders
variable {a : Byte}

theorem fullBuffer_isNull : ¬ fullBuffer.isNull = true := by decide

theorem emitRequest_full {length : Nat} (adu : List Byte) (request : Request) (h : length ≤ 256) :
    emitRequest fullBuffer length adu request = ⟨.ok,request,appendCrc adu⟩ :=
  if_neg (Nat.not_lt.mpr h)

theorem buildable_maskWrite {address andMask orMask : Word}
    (h : (WireRequest.maskWriteRegister address andMask orMask).WellFormed a) :
    Buildable a (.maskWriteRegister address andMask orMask) := by
  have hw : writeAddressIsValid a = true := h
  refine ⟨.maskWriteRegister a address andMask orMask,?_⟩
  simp only [BuildCall.build,buildMaskWriteRegisterRequest,hw,not_true_eq_false,
    fullBuffer_isNull,if_false]
  exact emitRequest_full _ _ (show 10 ≤ 256 by decide)

theorem buildable_readFifo {pointerAddress : Word}
    (h : (WireRequest.readFifoQueue pointerAddress).WellFormed a) :
    Buildable a (.readFifoQueue pointerAddress) := by
  have hu : unicastAddressIsValid a = true := h
  refine ⟨.readFifoQueue a pointerAddress,?_⟩
  simp only [BuildCall.build,buildReadFifoQueueRequest,hu,not_true_eq_false,
    fullBuffer_isNull,if_false]
  exact emitRequest_full _ _ (show 6 ≤ 256 by decide)

theorem buildFunctionOnly_full (f : Byte) (h : unicastAddressIsValid a = true) :
    buildFunctionOnlyRequest a f fullBuffer =
      ⟨.ok,finishRequest a f 0#16 0#16 0#16,appendCrc [a,f]⟩ := by
  simp only [buildFunctionOnlyRequest,h,not_true_eq_false,
    fullBuffer_isNull,if_false]
  exact emitRequest_full _ _ (show 4 ≤ 256 by decide)

theorem buildable_status {f : Byte} (h : (WireRequest.status f).WellFormed a) :
    Buildable a (.status f) := by
  obtain ⟨hu,hf⟩ := h
  simp only [List.mem_cons,List.not_mem_nil,or_false] at hf
  rcases hf with rfl | rfl | rfl
  · exact ⟨.readExceptionStatus a,buildFunctionOnly_full _ hu⟩
  · exact ⟨.getCommEventCounter a,buildFunctionOnly_full _ hu⟩
  · exact ⟨.getCommEventLog a,buildFunctionOnly_full _ hu⟩

theorem buildable_serverId {expected : Word}
    (h : (WireRequest.reportServerId expected).WellFormed a) :
    Buildable a (.reportServerId expected) := by
  obtain ⟨hu,h0,hq⟩ := h
  have hok : ¬ (expected = 0#16 ∨ 250 < expected.toNat) := by
    simp only [h0,false_or]
    omega
  refine ⟨.reportServerId a expected,?_⟩
  simp only [BuildCall.build,buildReportServerIdRequest,hok,if_false,buildFunctionOnly_full _ hu,
    if_true]
  rfl

theorem buildable_readWrite {readStart readQuantity writeStart writeQuantity : Word}
    {values : List Word}
    (h : (WireRequest.readWriteMultipleRegisters readStart readQuantity writeStart writeQuantity
      values).WellFormed a) :
    Buildable a (.readWriteMultipleRegisters readStart readQuantity writeStart writeQuantity
      values) := by
  obtain ⟨hu,hr,hrq,hw,hwq,hlen⟩ := h
  have hok : ¬ (readQuantity = 0#16 ∨ 125 < readQuantity.toNat ∨
      ¬ addressRangeIsValid readStart readQuantity ∨ writeQuantity = 0#16 ∨
      121 < writeQuantity.toNat ∨ ¬ addressRangeIsValid writeStart writeQuantity) := by
    simp only [WireRequest.addressRange_ne_zero hr,WireRequest.addressRange_ne_zero hw,hr,hw,
      not_true_eq_false,false_or,or_false]
    omega
  have hvalues : slice (store (fun _ => 0#16) 0 values) 0 writeQuantity.toNat = values := by
    rw [← hlen]
    exact slice_store _ 0 values
  refine ⟨.readWriteMultipleRegisters a readStart readQuantity writeStart writeQuantity
    (some (store (fun _ => 0#16) 0 values)),?_⟩
  simp only [BuildCall.build,buildReadWriteMultipleRegistersRequest,fullBuffer_isNull,hu,hok,not_true_eq_false,
    if_false,hvalues]
  rw [emitRequest_full _ _ (by omega)]
  simp [WireRequest.descriptor,WireRequest.frame,WireRequest.pdu,WireRequest.function,
    WireRequest.body]

theorem buildable_deviceId {readCode objectId : Byte}
    (h : (WireRequest.readDeviceIdentification readCode objectId).WellFormed a) :
    Buildable a (.readDeviceIdentification readCode objectId) := by
  obtain ⟨hu,hc⟩ := h
  refine ⟨.readDeviceIdentification a readCode objectId,?_⟩
  simp only [BuildCall.build,buildReadDeviceIdentificationRequest,hu,hc,not_true_eq_false,
    fullBuffer_isNull,if_false]
  exact emitRequest_full _ _ (show 7 ≤ 256 by decide)

theorem buildable_mei {meiType : Byte} {data : List Byte}
    (h : (WireRequest.mei meiType data).WellFormed a) : Buildable a (.mei meiType data) := by
  obtain ⟨hu,ht,hd⟩ := h
  refine ⟨.mei a meiType (some ⟨1000,ofList data⟩) data.length,?_⟩
  have hfar : rangesOverlap fullBuffer.adu (3+data.length+2) 1000 data.length = false := by
    simp only [rangesOverlap,fullBuffer]
    exact decide_eq_false (by omega)
  simp only [BuildCall.build,buildMeiRequest,fullBuffer_isNull,hu,ht,not_true_eq_false,if_false,Nat.not_lt.mpr hd,
    Option.isNone_some,Bool.false_eq_true,and_false,or_false,Option.any_some,hfar,
    DataBuffer.read,slice_ofList]
  rw [if_neg (by simp only [fullBuffer]; omega)]
  exact emitRequest_full _ _ (by omega)

theorem buildable_diagnostics {subfunction : Word} {data : List Byte}
    (h : (WireRequest.diagnostics subfunction data).WellFormed a) :
    Buildable a (.diagnostics subfunction data) := by
  obtain ⟨hs,hd,h2,ha,hdata⟩ := h
  refine ⟨.diagnostics a subfunction (some (ofList data)) data.length,?_⟩
  have hb : ¬ (a = 0#8 ∧ ¬ diagnosticSubfunctionIsStateChanging subfunction) := by
    rintro ⟨rfl,hb⟩
    rcases ha with h | ⟨-,h⟩
    · exact absurd h (by decide)
    · exact hb h
  have hu : ¬ (a ≠ 0#8 ∧ ¬ unicastAddressIsValid a) := by
    rintro ⟨h0,hu⟩
    rcases ha with h | ⟨h,-⟩
    · exact hu h
    · exact h0 h
  have hw : ¬ (subfunction ≠ 0x0000#16 ∧ (data.length ≠ 2 ∨
      ¬ diagnosticDataIsValid subfunction (readBe16 (ofList data)))) := by
    rintro ⟨hne,hbad⟩
    obtain ⟨hl,hv⟩ := hdata hne
    simp [hl,hv] at hbad
  simp only [BuildCall.build,buildDiagnosticsRequest,fullBuffer_isNull,hs,hb,hu,hw,h2,not_true_eq_false,if_false,
    Nat.not_lt.mpr hd,Option.isNone_some,Bool.false_eq_true,and_false,or_false,ne_eq,
    Option.getD_some,slice_ofList]
  exact emitRequest_full _ _ (by omega)

theorem checkReadSubrequests_valid (subrequests : List FileRecordRequest) (total : Nat)
    (hv : ∀ r ∈ subrequests, r.Valid) (hfits : total+WireRequest.readLength subrequests ≤ 245) :
    checkReadSubrequests subrequests total =
      .ok (total+WireRequest.readLength subrequests) := by
  induction subrequests generalizing total with
  | nil => simp [checkReadSubrequests,WireRequest.readLength]
  | cons r rest ih =>
    have hr := hv r List.mem_cons_self
    rw [WireRequest.readLength_cons] at hfits ⊢
    have hroom : ¬ 245-total < 2+r.recordLength.toNat*2 := by omega
    unfold checkReadSubrequests
    simp only [hr.file,hr.range,hroom,not_true_eq_false,or_self,if_false]
    rw [ih _ (fun q hq => hv q (List.mem_cons_of_mem _ hq)) (by omega)]
    congr 1
    omega

theorem buildable_readFileRecord {subrequests : List FileRecordRequest}
    (h : (WireRequest.readFileRecord subrequests).WellFormed a) :
    Buildable a (.readFileRecord subrequests) := by
  obtain ⟨hu,h0,h35,hv,hle⟩ := h
  have hstored : slice (store (fun _ => ⟨0,0,0⟩) 0 subrequests) 0 subrequests.length =
      subrequests := slice_store _ 0 subrequests
  have hcheck := checkReadSubrequests_valid subrequests 0 hv (by omega)
  have hcount : ¬ (subrequests.length = 0 ∨ 35 < subrequests.length) := by omega
  have hsize : ¬ 245 < subrequests.length*7 := by omega
  refine ⟨.readFileRecord a (some (store (fun _ => ⟨0,0,0⟩) 0 subrequests)) subrequests.length,?_⟩
  simp only [BuildCall.build,buildReadFileRecordRequest,fullBuffer_isNull,hu,hcount,hsize,not_true_eq_false,if_false,
    hstored,hcheck,Nat.zero_add]
  exact emitRequest_full _ _ (by omega)

def toWriteRequest (r : FileRecordRequest × List Word) : WriteFileRecordRequest :=
  ⟨r.1.fileNumber,r.1.recordNumber,r.1.recordLength,some (store (fun _ => 0#16) 0 r.2)⟩

theorem toWriteRequest_encode {r : FileRecordRequest × List Word}
    (h : r.2.length = r.1.recordLength.toNat) :
    (toWriteRequest r).encode = encodeWriteSubrequest r := by
  have hwords : (toWriteRequest r).words = r.2 := by
    simp only [WriteFileRecordRequest.words,toWriteRequest,← h]
    exact slice_store _ 0 r.2
  rw [WriteFileRecordRequest.encode,hwords]
  rfl

theorem checkWriteSubrequests_valid (subrequests : List (FileRecordRequest × List Word))
    (total : Nat) (hv : ∀ r ∈ subrequests, r.1.Valid)
    (hfits : total+WireRequest.writeLength subrequests ≤ 251) :
    checkWriteSubrequests (subrequests.map toWriteRequest) total =
      .ok (total+WireRequest.writeLength subrequests) := by
  induction subrequests generalizing total with
  | nil => simp [checkWriteSubrequests,WireRequest.writeLength]
  | cons r rest ih =>
    have hr := hv r List.mem_cons_self
    rw [WireRequest.writeLength_cons] at hfits ⊢
    have hroom : ¬ 251-total < 7+r.1.recordLength.toNat*2 := by omega
    have ht := ih (total+(7+r.1.recordLength.toNat*2))
      (fun q hq => hv q (List.mem_cons_of_mem _ hq)) (by omega)
    have hok : ¬ ((toWriteRequest r).fileNumber = 0#16 ∨ (toWriteRequest r).recordData.isNone ∨
        ¬ fileRecordRangeIsValid (toWriteRequest r).recordNumber
          (toWriteRequest r).recordLength) := by
      simp [toWriteRequest,hr.file,hr.range]
    rw [List.map_cons,checkWriteSubrequests,if_neg hok,
      show (toWriteRequest r).recordLength = r.1.recordLength from rfl,if_neg hroom,ht]
    congr 1
    omega

theorem buildable_writeFileRecord {subrequests : List (FileRecordRequest × List Word)}
    (h : (WireRequest.writeFileRecord subrequests).WellFormed a) :
    Buildable a (.writeFileRecord subrequests) := by
  obtain ⟨hw,h0,h27,hv,hle⟩ := h
  have hstored : slice (store (fun _ => toWriteRequest (⟨0,0,0⟩,[])) 0
      (subrequests.map toWriteRequest)) 0 subrequests.length = subrequests.map toWriteRequest := by
    have h := slice_store (fun _ => toWriteRequest (⟨0,0,0⟩,[])) 0 (subrequests.map toWriteRequest)
    rwa [List.length_map] at h
  have hcheck := checkWriteSubrequests_valid subrequests 0 (fun r hr => (hv r hr).1) (by omega)
  have hcount : ¬ (subrequests.length = 0 ∨ 27 < subrequests.length) := by omega
  have hbytes : (subrequests.map toWriteRequest).flatMap WriteFileRecordRequest.encode =
      subrequests.flatMap encodeWriteSubrequest := by
    rw [List.flatMap_map]
    exact List.flatMap_congr fun r hr => toWriteRequest_encode (hv r hr).2
  refine ⟨.writeFileRecord a (some (store (fun _ => toWriteRequest (⟨0,0,0⟩,[])) 0
    (subrequests.map toWriteRequest))) subrequests.length,?_⟩
  simp only [BuildCall.build,buildWriteFileRecordRequest,fullBuffer_isNull,hw,hcount,
    not_true_eq_false,if_false,hstored,hcheck,Nat.zero_add,hbytes]
  exact emitRequest_full _ _ (by omega)

end Builders

/-- The functions that `request_adu_matches_descriptor` has a case for. -/
def checkedFunctions : List Byte :=
  [0x07#8,0x08#8,0x0B#8,0x0C#8,0x11#8,0x14#8,0x15#8,0x16#8,0x17#8,0x18#8,0x2B#8]

theorem buildable_of_wellFormed {a : Byte} {w : WireRequest} (h : w.WellFormed a)
    (hf : w.function ∈ checkedFunctions) : Buildable a w := by
  cases w with
  | read f start quantity =>
    obtain ⟨-,-,⟨hm,-⟩ | ⟨hm,-⟩⟩ := h
    all_goals
      simp only [List.mem_cons,List.not_mem_nil,or_false] at hm
      rcases hm with rfl | rfl <;> simp [WireRequest.function,checkedFunctions] at hf
  | writeSingle f address value =>
    obtain ⟨-,⟨rfl,-⟩ | rfl⟩ := h
    all_goals simp [WireRequest.function,checkedFunctions] at hf
  | writeMultipleCoils => simp [WireRequest.function,checkedFunctions] at hf
  | writeMultipleRegisters => simp [WireRequest.function,checkedFunctions] at hf
  | maskWriteRegister => exact buildable_maskWrite h
  | readWriteMultipleRegisters => exact buildable_readWrite h
  | readFileRecord => exact buildable_readFileRecord h
  | writeFileRecord => exact buildable_writeFileRecord h
  | readFifoQueue => exact buildable_readFifo h
  | mei => exact buildable_mei h
  | readDeviceIdentification => exact buildable_deviceId h
  | status => exact buildable_status h
  | reportServerId => exact buildable_serverId h
  | diagnostics => exact buildable_diagnostics h

def Request.relevant (request : Request) : Request :=
  if request.function = 0x07#8 ∨ request.function = 0x08#8 ∨ request.function = 0x0B#8 ∨
      request.function = 0x0C#8 then
    { request with writeStartAddress := 0, writeQuantity := 0 }
  else request

/-- Two descriptors of one request; only FC17 has a second range. -/
structure SameRequest (request built : Request) : Prop where
  slaveAddress : request.slaveAddress = built.slaveAddress
  function : request.function = built.function
  startAddress : request.startAddress = built.startAddress
  quantity : request.quantity = built.quantity
  value : request.value = built.value
  write : request.function = 0x17#8 → request.writeStartAddress = built.writeStartAddress ∧
    request.writeQuantity = built.writeQuantity

/-- The descriptor and the ADU are those of one request of a builder. -/
structure Coherent (request : Request) (adu : List Byte) : Prop where
  built : ∃ (call : BuildCall) (out : RequestBuffer), (call.build out).result = .ok ∧
    (call.build out).adu = adu ∧ SameRequest request (call.build out).request
  expects : request.expectsResponse =
    if request.slaveAddress ≠ 0#8 ∧
      ¬ (request.function = 0x08#8 ∧ request.startAddress = 0x0004#16) then 1#8 else 0#8
  validated : request.expectsResponse = 1#8 → validateRequestDescriptor request = .ok

section Relevant
variable (request : Request)

theorem sameRequest_relevant : SameRequest request request.relevant := by
  unfold Request.relevant
  split
  · rename_i hf
    refine ⟨rfl,rfl,rfl,rfl,rfl,fun h => ?_⟩
    rw [h] at hf
    exact absurd hf (by decide)
  · exact ⟨rfl,rfl,rfl,rfl,rfl,fun _ => ⟨rfl,rfl⟩⟩

theorem relevant_expectsResponse : request.relevant.expectsResponse = request.expectsResponse := by
  unfold Request.relevant
  split <;> rfl

theorem validateRequestDescriptor_relevant :
    validateRequestDescriptor request.relevant = validateRequestDescriptor request := by
  unfold Request.relevant
  split
  · rename_i hf
    rcases hf with hf | hf | hf | hf <;>
      simp [validateRequestDescriptor,validateFunctionFields,hf]
  · rfl

end Relevant

/-- The check finds a well-formed request for each of the functions that it knows. -/
theorem functionFieldsMatch_describes {request : Request} {m : Mem Byte} {length : Nat}
    (hf : request.function ∈ checkedFunctions) (haddress : request.slaveAddress.toNat ≤ 247)
    (h : functionFieldsMatch request m length = true) :
    ∃ w, Describes request.relevant m length w := by
  have hother : ¬ (request.function = 0x07#8 ∨ request.function = 0x08#8 ∨
      request.function = 0x0B#8 ∨ request.function = 0x0C#8) → request.relevant = request :=
    fun hn => if_neg hn
  have hunused : (request.function = 0x07#8 ∨ request.function = 0x08#8 ∨
      request.function = 0x0B#8 ∨ request.function = 0x0C#8) →
      request.relevant = { request with writeStartAddress := 0, writeQuantity := 0 } :=
    fun hn => if_pos hn
  simp only [checkedFunctions,List.mem_cons,List.not_mem_nil,or_false] at hf
  rcases hf with hf | hf | hf | hf | hf | hf | hf | hf | hf | hf | hf <;>
    simp only [functionFieldsMatch,hf,BitVec.toNat_ofNat,Nat.reducePow,Nat.reduceMod] at h
  · rw [hunused (by simp [hf])]
    exact ⟨_,status_describes haddress (by simp [hf]) h rfl rfl⟩
  · rw [hunused (by simp [hf])]
    exact ⟨_,diagnostics_describes haddress hf h rfl rfl⟩
  · rw [hunused (by simp [hf])]
    exact ⟨_,status_describes haddress (by simp [hf]) h rfl rfl⟩
  · rw [hunused (by simp [hf])]
    exact ⟨_,status_describes haddress (by simp [hf]) h rfl rfl⟩
  · rw [hother (by simp [hf])]
    exact ⟨_,serverId_describes haddress hf h⟩
  · rw [hother (by simp [hf])]
    exact readFileRecord_describes haddress hf h
  · rw [hother (by simp [hf])]
    exact writeFileRecord_describes haddress hf h
  · rw [hother (by simp [hf])]
    exact ⟨_,maskWrite_describes haddress hf h⟩
  · rw [hother (by simp [hf])]
    exact ⟨_,readWrite_describes haddress hf h⟩
  · rw [hother (by simp [hf])]
    exact ⟨_,readFifo_describes haddress hf h⟩
  · rw [hother (by simp [hf])]
    exact mei_describes haddress hf h

theorem start_ok {t : Transaction} {request : Request} {m : Mem Byte} {length : Nat} {now : Word32}
    {transportResult : Int}
    (h : (t.start (some request) (some m) length now transportResult).1.1 = .ok) :
    requestAduMatchesDescriptor request m length = true := by
  unfold Transaction.start at h
  dsimp only at h
  split_ifs at h with h1 h2 h3 h4
  simpa using h4

theorem matches_spec {request : Request} {m : Mem Byte} {length : Nat}
    (h : requestAduMatchesDescriptor request m length = true) :
    request.slaveAddress.toNat ≤ 247 ∧ 4 ≤ length ∧ m 0 = request.slaveAddress ∧
      m 1 = request.function ∧ functionFieldsMatch request m length = true ∧
      m (length-2) = loByte (mbCrc16 m (length-2)) ∧
      m (length-1) = hiByte (mbCrc16 m (length-2)) := by
  unfold requestAduMatchesDescriptor at h
  split_ifs at h with h1 h2 h3 h4
  simp only [not_or,Nat.not_lt,not_not] at h1 h2 h4
  simp only [decide_eq_true_eq] at h
  exact ⟨h1.1,h1.2,h2.1,h2.2,h4,h.1,h.2⟩

theorem Describes.bytes {request : Request} {m : Mem Byte} {length : Nat} {w : WireRequest}
    (h : Describes request m length w) (h0 : m 0 = request.slaveAddress)
    (h1 : m 1 = request.function) (hlo : m (length-2) = loByte (mbCrc16 m (length-2)))
    (hhi : m (length-1) = hiByte (mbCrc16 m (length-2))) :
    slice m 0 length = appendCrc (w.frame request.slaveAddress) := by
  have hf : request.function = w.function := by
    rw [h.descriptor]
    exact WireRequest.descriptor_function
  have hlen := h.length_eq
  have hframe : (w.frame request.slaveAddress).length = length-2 := by
    rw [w.frame_length]
    omega
  have hstored : Stored m 0 (appendCrc (w.frame request.slaveAddress)) := by
    rw [stored_appendCrc,hframe,show length-2+1 = length-1 by omega]
    refine ⟨?_,hlo,hhi⟩
    simp only [WireRequest.frame,WireRequest.pdu,stored_cons]
    exact ⟨h0,h1.trans hf,h.body⟩
  apply hstored.slice_eq
  rw [appendCrc_length,hframe]
  omega

theorem answered_eq {a : Byte} {w : WireRequest} (h : w.WellFormed a)
    (hf : w.function ∈ checkedFunctions) :
    w.answered a = decide (a ≠ 0#8 ∧
      ¬ ((w.descriptor a).function = 0x08#8 ∧ (w.descriptor a).startAddress = 0x0004#16)) := by
  cases w with
  | diagnostics subfunction data => simp [WireRequest.answered,WireRequest.descriptor,finishRequest]
  | status f =>
    have hm := h.2
    simp only [List.mem_cons,List.not_mem_nil,or_false] at hm
    rcases hm with rfl | rfl | rfl <;>
      simp [WireRequest.answered,WireRequest.descriptor,finishRequest]
  | read f start quantity =>
    obtain ⟨-,-,⟨hm,-⟩ | ⟨hm,-⟩⟩ := h
    all_goals
      simp only [List.mem_cons,List.not_mem_nil,or_false] at hm
      rcases hm with rfl | rfl <;> simp [WireRequest.function,checkedFunctions] at hf
  | writeSingle f address value =>
    obtain ⟨-,⟨rfl,-⟩ | rfl⟩ := h
    all_goals simp [WireRequest.function,checkedFunctions] at hf
  | _ => simp [WireRequest.answered,WireRequest.descriptor,finishRequest]

theorem coherent_of_matches {request : Request} {m : Mem Byte} {length : Nat}
    (hf : request.function ∈ checkedFunctions)
    (h : requestAduMatchesDescriptor request m length = true) :
    Coherent request (slice m 0 length) := by
  obtain ⟨haddress,-,h0,h1,hfields,hlo,hhi⟩ := matches_spec h
  obtain ⟨w,hw⟩ := functionFieldsMatch_describes hf haddress hfields
  have hsame := sameRequest_relevant request
  have hdescriptor := hw.descriptor
  have hwell := hw.wellFormed
  rw [← hsame.slaveAddress] at hdescriptor hwell
  have hbytes := hw.bytes (h0.trans hsame.slaveAddress) (h1.trans hsame.function) hlo hhi
  rw [← hsame.slaveAddress] at hbytes
  have hwf : w.function ∈ checkedFunctions := by
    have hfun := hsame.function
    rw [hdescriptor,WireRequest.descriptor_function] at hfun
    exact hfun ▸ hf
  have hanswered := answered_eq hwell hwf
  rw [← hdescriptor,← hsame.function,← hsame.startAddress] at hanswered
  have hexpects := WireRequest.descriptor_expectsResponse (w := w) (a := request.slaveAddress)
  rw [← hdescriptor,relevant_expectsResponse,hanswered] at hexpects
  obtain ⟨call,hcall⟩ := buildable_of_wellFormed hwell hwf
  refine ⟨⟨call,fullBuffer,by rw [hcall],by rw [hcall,hbytes],?_⟩,?_,?_⟩
  · rw [hcall,← hdescriptor]
    exact hsame
  · rw [hexpects]
    simp only [decide_eq_true_eq]
  · intro he
    have hv := WireRequest.validateRequestDescriptor_descriptor hwell
    rw [← hdescriptor,validateRequestDescriptor_relevant,hanswered] at hv
    rw [he] at hexpects
    rw [hv]
    split
    · rfl
    · rename_i hno
      rw [if_neg hno] at hexpects
      cases hexpects

/-! What falls through the chain. -/

def bareRequest (f : Byte) : Request := ⟨0x01#8,f,0,0,0,1,0,0⟩

theorem appendCrc_injective {xs ys : List Byte} (h : appendCrc xs = appendCrc ys) : xs = ys := by
  have hlen : xs.length = ys.length := by
    have := congrArg List.length h
    simpa using this
  exact (List.append_inj h hlen).1

theorem bareRequest_accepted {f : Byte} (hf : f ∉ checkedFunctions) :
    requestAduMatchesDescriptor (bareRequest f) (ofList (appendCrc [0x01#8,f])) 4 = true := by
  have hstored : Stored (ofList (appendCrc [0x01#8,f])) 0 (appendCrc [0x01#8,f]) := by
    simpa using stored_ofList (appendCrc [0x01#8,f]) []
  obtain ⟨-,hlo,hhi⟩ := stored_appendCrc.mp hstored
  have hfields : functionFieldsMatch (bareRequest f) (ofList (appendCrc [0x01#8,f])) 4 = true := by
    have hne : ∀ n, f.toNat = n → f = BitVec.ofNat 8 n := by
      intro n hn
      rw [← hn]
      simp
    unfold functionFieldsMatch
    split
    all_goals first
      | rfl
      | (rename_i hn; exact absurd (hne _ hn) (by rintro rfl; exact hf (by decide)))
  simp only [requestAduMatchesDescriptor,hfields,not_true_eq_false,if_false]
  rw [if_neg (by simp [bareRequest]),if_neg (by simp [bareRequest,appendCrc]),
    if_neg (by simp [bareRequest])]
  exact decide_eq_true ⟨hlo,hhi⟩

theorem bareRequest_incoherent {f : Byte} (hf : f ∉ checkedFunctions) :
    ¬ Coherent (bareRequest f) (appendCrc [0x01#8,f]) := by
  rintro ⟨⟨call,out,hok,hadu,-⟩,-,-⟩
  have hb := call.build_ok hok
  rw [hb.built] at hadu
  have hframe := appendCrc_injective hadu
  have hwell := hb.wellFormed
  generalize call.wire = w at hframe hwell
  simp only [WireRequest.frame,WireRequest.pdu,List.cons.injEq] at hframe
  obtain ⟨-,hfun,hbody⟩ := hframe
  apply hf
  rw [← hfun]
  cases w with
  | status f =>
    have hm := hwell.2
    simp only [List.mem_cons,List.not_mem_nil,or_false] at hm
    rcases hm with rfl | rfl | rfl <;> simp [WireRequest.function,checkedFunctions]
  | reportServerId => simp [WireRequest.function,checkedFunctions]
  | _ => simp [WireRequest.body,writeBe16] at hbody

/-- Accepted transactions are coherent for exactly the functions that the check has a case for. -/
theorem acceptedTransactions_coherent_iff (f : Byte) :
    (∀ (t : Transaction) (request : Request) (m : Mem Byte) (length : Nat) (now : Word32)
      (transportResult : Int), request.function = f →
      (t.start (some request) (some m) length now transportResult).1.1 = .ok →
      Coherent request (slice m 0 length)) ↔ f ∈ checkedFunctions := by
  constructor
  · intro h
    by_contra hf
    have haccepted : ((Transaction.initialized retryOnce).start (some (bareRequest f))
        (some (ofList (appendCrc [0x01#8,f]))) 4 0 0).1.1 = .ok := by
      simp only [Transaction.start,bareRequest_accepted hf,not_true_eq_false,if_false]
      rfl
    have hcoherent := h _ (bareRequest f) _ 4 0 0 rfl haccepted
    exact bareRequest_incoherent hf hcoherent
  · intro hf t request m length now transportResult hrequest haccepted
    exact coherent_of_matches (hrequest ▸ hf) (start_ok haccepted)

def mismatchedDescriptor : Request := ⟨0x11#8,0x03#8,0,1,0,1,0,0⟩

def mismatchedAdu : List Byte := appendCrc [0x11#8,0x03#8,0x00#8,0x00#8,0x00#8,0x02#8]

theorem mismatchedRequest_accepted :
    ((Transaction.initialized retryOnce).start (some mismatchedDescriptor)
      (some (ofList mismatchedAdu)) 8 0 0).1.1 = .ok ∧
    ¬ Coherent mismatchedDescriptor mismatchedAdu := by
  refine ⟨by decide +kernel,?_⟩
  rintro ⟨⟨call,out,hok,hadu,hsame⟩,-,-⟩
  have hb := call.build_ok hok
  rw [hb.built] at hadu hsame
  have hframe := appendCrc_injective hadu
  have hwell := hb.wellFormed
  generalize call.wire = w at hframe hwell hsame
  simp only [WireRequest.frame,WireRequest.pdu,List.cons.injEq] at hframe
  obtain ⟨-,hfun,hbody⟩ := hframe
  cases w with
  | read f start quantity =>
    have hq : quantity = 1#16 := hsame.quantity.symm
    subst hq
    simp [WireRequest.body,writeBe16,loByte] at hbody
  | writeSingle f address value =>
    obtain ⟨-,⟨rfl,-⟩ | rfl⟩ := hwell
    all_goals cases hfun
  | status f =>
    have hm := hwell.2
    simp only [List.mem_cons,List.not_mem_nil,or_false] at hm
    rcases hm with rfl | rfl | rfl <;> cases hfun
  | _ => cases hfun

end ModbusStack
