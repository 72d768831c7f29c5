import ModbusStack.ViewBounds

/-! What response validation accepts, the decoders can decode to the end. -/
set_option autoImplicit false

namespace ModbusStack
open ByteMemory

/-- The decoder succeeds for the indices below `count` and reports the others. -/
structure Indexed {ι α : Type} (position : ι → Nat) (decode : ι → Except MasterResult α)
    (count : Nat) : Prop where
  inside : ∀ index, position index < count → ∃ value, decode index = .ok value
  outside : ∀ index, count ≤ position index → decode index = .error .errorIndex

section Parts
variable (request : Request) (original : Mem Byte) (originalLength : Nat)
variable (adu : Mem Byte) (response : Response)

def FileRecordsDecodable : Prop :=
  ∃ records, mbrtumGetFileRecordResponse response adu = .ok records ∧
    records.subresponseCount = request.value.toNat ∧
    originalLength = 5+7*records.subresponseCount ∧
    Indexed id (mbrtumGetFileRecordSubresponse adu records) records.subresponseCount ∧
    ∀ i subresponse, mbrtumGetFileRecordSubresponse adu records i = .ok subresponse →
      subresponse.recordLength = (readSubrequest original (3+7*i)).recordLength ∧
      Indexed BitVec.toNat (mbrtumGetFileRecordRegister adu subresponse)
        subresponse.recordLength.toNat

/-- FC43/14: object `i` begins where the objects before it end, and the last one ends where the
data does. -/
def ObjectsDecodable : Prop :=
  ∃ (identity : DeviceIdResponse) (objects : List IdentityObject) (start : Nat),
    mbrtumGetDeviceIdResponse response adu = .ok identity ∧
    identity.objects = some start ∧ objects.length = identity.objectCount.toNat ∧
    (objects.map IdentityObject.objectId).Pairwise (fun a b => a.toNat < b.toNat) ∧
    (objects.flatMap IdentityObject.encode).length = identity.objectsLength ∧
    Stored adu start (objects.flatMap IdentityObject.encode) ∧
    Indexed id (mbrtumGetDeviceIdObject adu identity) identity.objectCount.toNat ∧
    ∀ i o, objects[i]? = some o → mbrtumGetDeviceIdObject adu identity i =
      .ok ⟨o.objectId,start+(((objects.take i).flatMap IdentityObject.encode).length+2),
        o.value.length⟩

def FifoDecodable : Prop :=
  ∃ fifo, mbrtumGetFifoResponse response adu = .ok fifo ∧ fifo.fifoCount.toNat ≤ 31 ∧
    Indexed BitVec.toNat (mbrtumGetFifoRegister adu fifo) fifo.fifoCount.toNat

/-- FC17: identifier, run status and additional data are the whole view, in this order. -/
def ServerIdDecodable : Prop :=
  ∃ server, mbrtumGetServerIdResponse request response adu = .ok server ∧
    response.data = some server.serverId ∧ server.serverIdLength = request.quantity.toNat ∧
    server.runStatus = adu (server.serverId+server.serverIdLength) ∧
    (server.runStatus = 0x00#8 ∨ server.runStatus = 0xFF#8) ∧
    server.additionalData = (if 0 < server.additionalDataLength then
      some (server.serverId+(server.serverIdLength+1)) else none) ∧
    server.serverIdLength+1+server.additionalDataLength = response.dataLength

def EventsDecodable : Prop :=
  ∃ eventLog, mbrtumGetCommEventLog response adu = .ok eventLog ∧ eventLog.eventsLength ≤ 64 ∧
    Indexed id (mbrtumGetDiagnosticEvent adu eventLog) eventLog.eventsLength

end Parts

structure FullyDecodable (request : Request) (original : Mem Byte) (originalLength : Nat)
    (adu : Mem Byte) (length : Nat) (response : Response) : Prop where
  view : ∀ start, response.data = some start → start+response.dataLength ≤ length-2
  confined : ∀ adu', AgreeUpTo response.dataLength (response.bytes adu) (response.bytes adu') →
    SameDecodings request response adu adu'
  bits : request.function ∈ [0x01#8,0x02#8] →
    Indexed BitVec.toNat (mbrtumGetBit request response adu) request.quantity.toNat
  registers : request.function ∈ [0x03#8,0x04#8,0x17#8] →
    Indexed BitVec.toNat (mbrtumGetRegister request response adu) request.quantity.toNat
  fileRecords : request.function = 0x14#8 →
    FileRecordsDecodable request original originalLength adu response
  objects : request.function = 0x2B#8 → request.value = 0x0E#16 → ObjectsDecodable adu response
  fifo : request.function = 0x18#8 → FifoDecodable adu response
  serverId : request.function = 0x11#8 → ServerIdDecodable request adu response
  events : request.function = 0x0C#8 → EventsDecodable adu response
  exceptionStatus : request.function = 0x07#8 →
    ∃ status, mbrtumGetExceptionStatus response adu = .ok status
  commEventCounter : request.function = 0x0B#8 →
    ∃ counter, mbrtumGetCommEventCounter response adu = .ok counter
  diagnostics : request.function = 0x08#8 → ∃ d, mbrtumGetDiagnosticsResponse response adu = .ok d ∧
    (2 ≤ d.dataLength → ∃ word, mbrtumGetDiagnosticsWord response adu = .ok word)
  mei : request.function = 0x2B#8 → ∃ mei, mbrtumGetMeiResponse response adu = .ok mei

section Scalars
variable {request : Request} {adu : Mem Byte} {length : Nat} {response : Response}

theorem indexed_of_eq {ι α : Type} {position : ι → Nat} {decode : ι → Except MasterResult α}
    {count : Nat} (value : ι → α)
    (h : ∀ index, decode index = if count ≤ position index then .error .errorIndex
      else .ok (value index)) : Indexed position decode count where
  inside := fun index hi => ⟨value index,by rw [h,if_neg (Nat.not_le.mpr hi)]⟩
  outside := fun index hi => by rw [h,if_pos hi]

theorem accept_eq {data : Option Nat} {dataLength : Nat}
    (h : accept request data dataLength = (.ok,response)) :
    response = ⟨request.function,0,data,dataLength⟩ := (congrArg Prod.snd h).symm

theorem checkReadBits_response (h : checkReadBits request adu length = (.ok,response)) :
    response = ⟨request.function,0,some 3,(request.quantity.toNat+7)/8⟩ ∧
      length = 5+(request.quantity.toNat+7)/8 := by
  simp only [checkReadBits,reject] at h
  split at h
  · cases h
  split at h
  · cases h
  split at h
  · cases h
  exact ⟨accept_eq h,by omega⟩

theorem mbrtumGetBit_eq (hf : request.function ∈ [0x01#8,0x02#8])
    (h : response = ⟨request.function,0,some 3,(request.quantity.toNat+7)/8⟩) (index : Word) :
    mbrtumGetBit request response adu index = if request.quantity.toNat ≤ index.toNat then
      .error .errorIndex else .ok ((adu (3+index.toNat/8) >>> (index.toNat%8)) &&& 1#8) := by
  have hfunction : ¬ (request.function ≠ 0x01#8 ∧ request.function ≠ 0x02#8) := by
    rintro ⟨h1,h2⟩
    simp [h1,h2] at hf
  have hview : viewIsBad request response = false := by simp [viewIsBad,h]
  rw [mbrtumGetBit,if_neg hfunction,hview,if_neg (by simp)]
  split
  · rfl
  · rw [h,if_neg (by dsimp only; omega)]
    rfl

theorem checkReadRegisters_response (h : checkReadRegisters request adu length = (.ok,response)) :
    response = ⟨request.function,0,some 3,request.quantity.toNat*2⟩ ∧
      length = 5+request.quantity.toNat*2 := by
  simp only [checkReadRegisters,reject] at h
  split at h
  · cases h
  split at h
  · cases h
  exact ⟨accept_eq h,by omega⟩

theorem mbrtumGetRegister_eq (hf : request.function ∈ [0x03#8,0x04#8,0x17#8])
    (h : response = ⟨request.function,0,some 3,request.quantity.toNat*2⟩) (index : Word) :
    mbrtumGetRegister request response adu index = if request.quantity.toNat ≤ index.toNat then
      .error .errorIndex else .ok (readBe16 (adu.off (3+index.toNat*2))) := by
  have hfunction : ¬ (request.function ≠ 0x03#8 ∧ request.function ≠ 0x04#8 ∧
      request.function ≠ 0x17#8) := by
    rintro ⟨h1,h2,h3⟩
    simp [h1,h2,h3] at hf
  have hview : viewIsBad request response = false := by simp [viewIsBad,h]
  rw [mbrtumGetRegister,if_neg hfunction,hview,if_neg (by simp)]
  split
  · rfl
  · rw [h,if_neg (by dsimp only; omega)]
    rfl

theorem checkCommEventLog_response (h : checkCommEventLog request adu length = (.ok,response)) :
    response = ⟨request.function,0,some 3,(adu 2).toNat⟩ ∧ length = 5+(adu 2).toNat ∧
      6 ≤ (adu 2).toNat ∧ (adu 2).toNat ≤ 70 := by
  simp only [checkCommEventLog,reject] at h
  split at h
  · cases h
  split at h
  · cases h
  split at h
  · cases h
  exact ⟨accept_eq h,by omega,by omega,by omega⟩

theorem commEventLog_eq {n : Nat} (h : response = ⟨0x0C#8,0,some 3,n⟩) (hleast : 6 ≤ n)
    (hmost : n ≤ 70) : mbrtumGetCommEventLog response adu =
      .ok ⟨readBe16 (adu.off 3),readBe16 (adu.off 5),readBe16 (adu.off 7),some 9,n-6⟩ := by
  have hview : viewIsNot response 0x0C#8 = false := by simp [viewIsNot,h]
  rw [mbrtumGetCommEventLog,if_neg (by rw [hview,h]; simp; omega),h]
  rfl

theorem events_decodable {n : Nat} (h : response = ⟨0x0C#8,0,some 3,n⟩) (hleast : 6 ≤ n)
    (hmost : n ≤ 70) : EventsDecodable adu response := by
  refine ⟨_,commEventLog_eq h hleast hmost,Nat.sub_le_of_le_add hmost,?_⟩
  exact indexed_of_eq _ fun index => rfl

theorem checkServerId_response (h : checkServerId request adu length = (.ok,response)) :
    response = ⟨request.function,0,some 3,(adu 2).toNat⟩ ∧ length = 5+(adu 2).toNat ∧
      request.quantity.toNat+1 ≤ (adu 2).toNat ∧ (adu 2).toNat ≤ 251 ∧
      (adu (3+request.quantity.toNat) = 0x00#8 ∨ adu (3+request.quantity.toNat) = 0xFF#8) := by
  simp only [checkServerId,reject] at h
  split at h
  · cases h
  split at h
  · cases h
  split at h
  · cases h
  split at h
  · cases h
  rename_i hstatus
  refine ⟨accept_eq h,by omega,by omega,by omega,?_⟩
  by_contra hne
  rw [not_or] at hne
  exact hstatus hne

section ServerId
variable {n : Nat} (hf : request.function = 0x11#8)
  (hquantity : request.quantity.toNat ≠ 0 ∧ request.quantity.toNat ≤ 250)
  (h : response = ⟨0x11#8,0,some 3,n⟩) (hleast : request.quantity.toNat+1 ≤ n) (hmost : n ≤ 251)
  (hstatus : adu (3+request.quantity.toNat) = 0x00#8 ∨ adu (3+request.quantity.toNat) = 0xFF#8)
include hf hquantity h hleast hmost hstatus

theorem serverIdResponse_eq : mbrtumGetServerIdResponse request response adu =
    .ok ⟨3,request.quantity.toNat,adu (3+request.quantity.toNat),
      if 0 < n-request.quantity.toNat-1 then some (3+(request.quantity.toNat+1)) else none,
      n-request.quantity.toNat-1⟩ := by
  have hview : viewIsNot response 0x11#8 = false := by simp [viewIsNot,h]
  have hbyte : response.bytes adu request.quantity.toNat = adu (3+request.quantity.toNat) := by
    rw [h]
    rfl
  rw [mbrtumGetServerIdResponse,if_neg,hbyte,h]
  · rfl
  · rw [hbyte,hview,h]
    simp only [hf,ne_eq,not_true_eq_false,false_or,Bool.false_eq_true]
    rintro (hc | hc | hc | hc | ⟨h0,hff⟩)
    · exact hquantity.1 hc
    · omega
    · omega
    · omega
    · rcases hstatus with hs | hs
      · exact h0 hs
      · exact hff hs

theorem serverId_decodable : ServerIdDecodable request adu response := by
  refine ⟨_,serverIdResponse_eq hf hquantity h hleast hmost hstatus,by rw [h],rfl,rfl,hstatus,rfl,?_⟩
  rw [h]
  dsimp only
  omega

end ServerId

theorem checkFifoQueue_response (h : checkFifoQueue request adu length = (.ok,response)) :
    response = ⟨request.function,0,some 4,2+(readBe16 (adu.off 4)).toNat*2⟩ ∧
      length = 8+(readBe16 (adu.off 4)).toNat*2 ∧ (readBe16 (adu.off 4)).toNat ≤ 31 := by
  simp only [checkFifoQueue,reject] at h
  split at h
  · cases h
  split at h
  · cases h
  split at h
  · cases h
  split at h
  · cases h
  rename_i hcount hbytes hlength
  have hbyteCount : (readBe16 (adu.off 2)).toNat = 2+(readBe16 (adu.off 4)).toNat*2 := by
    by_contra hne
    exact hbytes (.inl hne)
  rw [hbyteCount] at h hlength
  exact ⟨accept_eq h,by omega,by omega⟩

section Fifo
variable (h : response = ⟨0x18#8,0,some 4,2+(readBe16 (adu.off 4)).toNat*2⟩)
  (hmost : (readBe16 (adu.off 4)).toNat ≤ 31)
include h hmost

theorem fifoResponse_eq : mbrtumGetFifoResponse response adu = .ok ⟨readBe16 (adu.off 4),
    if 0 < (readBe16 (adu.off 4)).toNat*2 then some 6 else none,
    (readBe16 (adu.off 4)).toNat*2⟩ := by
  have hview : viewIsNot response 0x18#8 = false := by simp [viewIsNot,h]
  have hcount : readBe16 (response.bytes adu) = readBe16 (adu.off 4) := by
    rw [h]
    rfl
  rw [mbrtumGetFifoResponse,if_neg]
  · dsimp only
    rw [hcount,if_neg (by omega),if_neg,h]
    · rfl
    · rw [h]
      exact not_not.mpr rfl
  · rw [hview,h]
    simp only [Bool.false_eq_true,false_or]
    omega

omit h in
theorem fifoRegister_eq (index : Word) :
    mbrtumGetFifoRegister adu ⟨readBe16 (adu.off 4),
      if 0 < (readBe16 (adu.off 4)).toNat*2 then some 6 else none,
      (readBe16 (adu.off 4)).toNat*2⟩ index =
        if (readBe16 (adu.off 4)).toNat ≤ index.toNat then .error .errorIndex
        else .ok (readBe16 (adu.off (6+index.toNat*2))) := by
  rw [mbrtumGetFifoRegister]
  dsimp only
  rw [if_neg (by omega)]
  split
  · rfl
  · rw [if_pos (by omega)]

theorem fifo_decodable : FifoDecodable adu response :=
  ⟨_,fifoResponse_eq h hmost,hmost,indexed_of_eq _ (fifoRegister_eq hmost)⟩

end Fifo

theorem exceptionStatus_eq (h : response = ⟨0x07#8,0,some 2,1⟩) :
    mbrtumGetExceptionStatus response adu = .ok (adu 2) := by
  simp [mbrtumGetExceptionStatus,viewIsNot,h,Response.bytes]

theorem commEventCounter_eq (h : response = ⟨0x0B#8,0,some 2,4⟩) :
    mbrtumGetCommEventCounter response adu =
      .ok (readBe16 (adu.off 2),readBe16 (adu.off 4)) := by
  rw [mbrtumGetCommEventCounter,if_neg (by simp [viewIsNot,h]),h]
  rfl

theorem meiResponse_eq {n : Nat} (h : response = ⟨0x2B#8,0,some 2,n⟩) (hleast : 1 ≤ n) :
    mbrtumGetMeiResponse response adu = .ok ⟨adu 2,3,n-1⟩ := by
  rw [mbrtumGetMeiResponse,if_neg (by simp [viewIsNot,h]; omega),h]
  rfl

theorem deviceIdResponse_eq {n : Nat} (h : response = ⟨0x2B#8,0,some 2,n⟩) (hleast : 8 ≤ n)
    (hmei : adu 2 = 0x0E#8) : mbrtumGetDeviceIdResponse response adu =
      .ok ⟨adu 3,adu 4,adu 5,adu 6,adu 7,some 8,n-6⟩ := by
  have hview : viewIsNot response 0x2B#8 = false := by simp [viewIsNot,h]
  rw [mbrtumGetDeviceIdResponse,hview,h,if_neg]
  · rfl
  · have hmei : adu (2+0) = 0x0E#8 := hmei
    simp only [Response.bytes,Option.getD_some,Mem.off_apply,hmei,Bool.false_eq_true,ne_eq,
      not_true_eq_false,false_or,or_false]
    omega

theorem diagnosticsResponse_eq {n : Nat} (h : response = ⟨0x08#8,0,some 2,n⟩) (hleast : 2 ≤ n)
    (heven : n%2 = 0) :
    mbrtumGetDiagnosticsResponse response adu = .ok ⟨readBe16 (adu.off 2),4,n-2⟩ := by
  have hview : viewIsNot response 0x08#8 = false := by simp [viewIsNot,h]
  rw [mbrtumGetDiagnosticsResponse,hview,h,if_neg]
  · rfl
  · simp only [Bool.false_eq_true,false_or]
    omega

end Scalars

section Records
variable {request : Request} {original : Mem Byte} {originalLength : Nat}
variable {adu : Mem Byte} {length : Nat} {response : Response}

theorem scanReadSubrequests_each {dataEnd fuel offset total count n : Nat} {r : Nat × Nat}
    (hend : dataEnd = offset+7*n) (hfuel : n ≤ fuel)
    (h : scanReadSubrequests original dataEnd fuel offset total count = some r) :
    ∀ k, k < n → 1 ≤ (readSubrequest original (offset+7*k)).recordLength.toNat ∧
      (readSubrequest original (offset+7*k)).recordLength.toNat ≤ 121 := by
  induction n generalizing fuel offset total count with
  | zero => exact fun k hk => absurd hk (by omega)
  | succ n ih =>
    obtain ⟨fuel,rfl⟩ := Nat.exists_eq_succ_of_ne_zero (show fuel ≠ 0 by omega)
    rw [scanReadSubrequests,if_pos (by omega)] at h
    dsimp only at h
    split_ifs at h with htype hrange hroom
    intro k hk
    cases k with
    | zero =>
      simp only [not_or,not_not,fileRecordRangeIsValid,decide_eq_true_eq] at hrange
      rw [Nat.mul_zero,Nat.add_zero]
      omega
    | succ k =>
      have hnext := ih (by omega) (by omega) h k (by omega)
      rw [show offset+7*(k+1) = offset+7+7*k by omega]
      exact hnext

theorem matchSubresponses_sound {n requestOffset responseOffset requestEnd responseEnd : Nat}
    (hsizes : ∀ k, k < n → 1 ≤ (readSubrequest original (requestOffset+7*k)).recordLength.toNat ∧
      (readSubrequest original (requestOffset+7*k)).recordLength.toNat ≤ 121)
    (h : matchSubresponses original originalLength adu length n requestOffset responseOffset =
      .ok (requestEnd,responseEnd)) :
    ∃ records : List (List Word), records.length = n ∧
      Stored adu responseOffset (records.flatMap encodeSubresponse) ∧
      responseEnd = responseOffset+(records.flatMap encodeSubresponse).length ∧
      (∀ words ∈ records, words ≠ [] ∧ words.length < 128) ∧
      ∀ k words, records[k]? = some words →
        words.length = (readSubrequest original (requestOffset+7*k)).recordLength.toNat := by
  induction n generalizing requestOffset responseOffset with
  | zero =>
    obtain ⟨rfl,rfl⟩ := Prod.mk.inj (Except.ok.inj h)
    exact ⟨[],rfl,stored_nil _ _,rfl,by simp,by simp⟩
  | succ n ih =>
    have hfirst := hsizes 0 (by omega)
    rw [Nat.mul_zero,Nat.add_zero] at hfirst
    rw [matchSubresponses] at h
    dsimp only at h
    split_ifs at h with hroom hhead hdata
    have hlength : (readBe16 (original.off (requestOffset+5))).toNat =
        (readSubrequest original requestOffset).recordLength.toNat := rfl
    rw [hlength] at h hhead hdata
    simp only [not_or,not_not] at hhead
    have hrest : ∀ k, k < n →
        1 ≤ (readSubrequest original (requestOffset+7+7*k)).recordLength.toNat ∧
          (readSubrequest original (requestOffset+7+7*k)).recordLength.toNat ≤ 121 := by
      intro k hk
      have := hsizes (k+1) (by omega)
      rwa [show requestOffset+7*(k+1) = requestOffset+7+7*k by omega] at this
    obtain ⟨records,hn,hs,he,hall,hlengths⟩ := ih hrest h
    let words := wordsAt adu (responseOffset+2)
      (readSubrequest original requestOffset).recordLength.toNat
    have hwords : words.length = (readSubrequest original requestOffset).recordLength.toNat :=
      wordsAt_length _ _ _
    refine ⟨words :: records,by rw [List.length_cons,hn],?_,?_,?_,?_⟩
    · rw [List.flatMap_cons,stored_append,encodeSubresponse_length,hwords]
      refine ⟨?_,?_⟩
      · simp only [encodeSubresponse,List.cons_append,List.nil_append,stored_cons]
        refine ⟨?_,hhead.2,stored_wordsAt adu (responseOffset+2) _⟩
        apply BitVec.eq_of_toNat_eq
        rw [hhead.1,BitVec.toNat_ofNat]
        omega
      · rw [show responseOffset+(2+2*(readSubrequest original requestOffset).recordLength.toNat) =
          responseOffset+(1+(1+(readSubrequest original requestOffset).recordLength.toNat*2)) by
            omega]
        exact hs
    · rw [List.flatMap_cons,List.length_append,encodeSubresponse_length]
      omega
    · simp only [List.mem_cons,forall_eq_or_imp]
      refine ⟨⟨?_,by omega⟩,hall⟩
      intro hnil
      rw [hnil] at hwords
      simp at hwords
      omega
    · intro k w hk
      cases k with
      | zero =>
        obtain rfl : words = w := by simpa using hk
        exact hwords
      | succ k =>
        rw [show requestOffset+7*(k+1) = requestOffset+7+7*k by omega]
        exact hlengths k w (by simpa using hk)

theorem matchSubresponses_error {n requestOffset responseOffset : Nat} {result : MasterResult}
    (h : matchSubresponses original originalLength adu length n requestOffset responseOffset =
      .error result) : result ≠ .ok := by
  induction n generalizing requestOffset responseOffset with
  | zero => cases h
  | succ n ih =>
    rw [matchSubresponses] at h
    dsimp only at h
    split_ifs at h
    all_goals first
      | exact ih h
      | cases h; decide

theorem checkReadFileRecord_response
    (h : checkReadFileRecord request original originalLength adu length = (.ok,response)) :
    response = ⟨request.function,0,some 3,request.quantity.toNat⟩ ∧
      length = 5+request.quantity.toNat ∧ ∃ requestEnd,
        matchSubresponses original originalLength adu length request.value.toNat 3 3 =
          .ok (requestEnd,length-2) := by
  simp only [checkReadFileRecord,reject] at h
  split at h
  · cases h
  split at h
  · cases h
  cases hm : matchSubresponses original originalLength adu length request.value.toNat 3 3 with
  | error e =>
    rw [hm] at h
    exact absurd (congrArg Prod.fst h) (matchSubresponses_error hm)
  | ok r =>
    rw [hm] at h
    dsimp only at h
    split at h
    · cases h
    rename_i hend
    simp only [not_or,not_not] at hend
    refine ⟨accept_eq h,by omega,r.1,?_⟩
    rw [← hend.2]

theorem readFileRecord_descriptor (hf : request.function = 0x14#8)
    (h : validateFunctionFields request = .ok) :
    request.startAddress.toNat = 7*request.value.toNat ∧ 4 ≤ request.quantity.toNat ∧
      request.quantity.toNat ≤ 245 := by
  simp only [validateFunctionFields,hf,BitVec.reduceToNat] at h
  split at h
  · cases h
  · omega

theorem originalRequestAdu_readFileRecord (hf : request.function = 0x14#8)
    (h : originalRequestAduIsValid request (some original) originalLength = true) :
    originalLength = 5+request.startAddress.toNat ∧ ∃ r,
      scanReadSubrequests original (originalLength-2) originalLength 3 0 0 = some r := by
  simp only [originalRequestAduIsValid,hf] at h
  split at h
  · cases h
  simp only [BitVec.reduceEq,if_false,if_true] at h
  split at h
  · cases h
  split at h
  · cases h
  rename_i hlength _ r count hscan
  exact ⟨by omega,_,hscan⟩

theorem records_length_le (records : List (List Word)) :
    records.length ≤ (records.flatMap encodeSubresponse).length := by
  induction records with
  | nil => simp
  | cons words records ih =>
    rw [List.flatMap_cons,List.length_append,encodeSubresponse_length,List.length_cons]
    omega

def subresponseAt (adu : Mem Byte) (place : Nat) : FileRecordSubresponse where
  referenceType := adu (3+(place+1))
  recordData := some (3+(place+2))
  recordDataLength := (adu (3+place)).toNat-1
  recordLength := BitVec.ofNat 16 (((adu (3+place)).toNat-1)/2)

section Stored
variable {records : List (List Word)} {n : Nat} (hrecords : SubresponsesAt (adu.off 3) n 0 records)
include hrecords

theorem fileRecordResponse_eq (h : response = ⟨0x14#8,0,some 3,n⟩) (hleast : 4 ≤ n)
    (hmost : n ≤ 245) :
    mbrtumGetFileRecordResponse response adu = .ok ⟨records.length,some 3,n⟩ := by
  have hview : viewIsNot response 0x14#8 = false := by simp [viewIsNot,h]
  have hexact := hrecords.exact
  have hle := records_length_le records
  have hcount : countSubresponses (response.bytes adu) response.dataLength response.dataLength 0 0 =
      some records.length := by
    rw [h]
    have heq := countSubresponses_eq hrecords (show records.length ≤ n by omega) 0
    rw [Nat.zero_add] at heq
    exact heq
  rw [mbrtumGetFileRecordResponse,hview,hcount,if_neg,h]
  rw [h]
  simp only [Bool.false_eq_true,false_or]
  omega

theorem fileRecordSubresponse_eq {i : Nat} {words : List Word} (hi : records[i]? = some words) :
    ∃ subresponse, mbrtumGetFileRecordSubresponse adu ⟨records.length,some 3,n⟩ i =
        .ok subresponse ∧ subresponse.recordLength = BitVec.ofNat 16 words.length ∧
      ∀ index : Word, mbrtumGetFileRecordRegister adu subresponse index =
        if words.length ≤ index.toNat then .error .errorIndex
        else .ok (words.getD index.toNat 0) := by
  obtain ⟨place,hseek,-,-,h0,h1,h2⟩ := seekSubresponse_eq hrecords hi
  obtain ⟨hlt,-⟩ := List.getElem?_eq_some_iff.mp hi
  have hsize := (hrecords.sizes words (List.mem_of_getElem? hi)).2
  simp only [Mem.off_apply] at h0 h1
  rw [stored_off] at h2
  have hlength : (subresponseAt adu place).recordLength = BitVec.ofNat 16 words.length := by
    simp only [subresponseAt,h0]
    congr 1
    omega
  refine ⟨subresponseAt adu place,?_,hlength,fun index => ?_⟩
  · rw [mbrtumGetFileRecordSubresponse]
    dsimp only
    rw [if_neg (by omega),hseek]
    rfl
  · have hnat : (subresponseAt adu place).recordLength.toNat = words.length := by
      rw [hlength,BitVec.toNat_ofNat]
      omega
    have hgood : ¬ ((subresponseAt adu place).referenceType ≠ 0x06#8 ∨
        (subresponseAt adu place).recordDataLength ≠
          (subresponseAt adu place).recordLength.toNat*2) := by
      rw [hnat]
      simp only [subresponseAt,h0,h1,ne_eq,not_true_eq_false,false_or]
      omega
    rw [mbrtumGetFileRecordRegister]
    simp only [show (subresponseAt adu place).recordData = some (3+(place+2)) from rfl]
    rw [if_neg hgood,hnat]
    split
    · rfl
    · rename_i hindex
      rw [← stored_readWord h2 index.toNat (by omega),Nat.mul_comm index.toNat 2]

end Stored

theorem fileRecords_decodable (hf : request.function = 0x14#8)
    (hdescriptor : validateFunctionFields request = .ok)
    (hvalid : originalRequestAduIsValid request (some original) originalLength = true)
    (h : checkReadFileRecord request original originalLength adu length = (.ok,response)) :
    FileRecordsDecodable request original originalLength adu response := by
  obtain ⟨hstart,hleast,hmost⟩ := readFileRecord_descriptor hf hdescriptor
  obtain ⟨horiginal,r,hscan⟩ := originalRequestAdu_readFileRecord hf hvalid
  obtain ⟨hresponse,hlength,requestEnd,hmatch⟩ := checkReadFileRecord_response h
  rw [hf] at hresponse
  have hsizes := scanReadSubrequests_each (n := request.value.toNat) (by omega) (by omega) hscan
  obtain ⟨records,hn,hs,he,hall,hlengths⟩ := matchSubresponses_sound hsizes hmatch
  have hrecords : SubresponsesAt (adu.off 3) request.quantity.toNat 0 records :=
    ⟨(stored_off adu 3 0 _).mpr hs,by omega,hall⟩
  refine ⟨_,fileRecordResponse_eq hrecords hresponse hleast hmost,hn,by dsimp only; omega,?_,?_⟩
  · constructor
    · intro i hi
      obtain ⟨subresponse,hsub,-⟩ :=
        fileRecordSubresponse_eq hrecords (List.getElem?_eq_getElem hi)
      exact ⟨subresponse,hsub⟩
    · intro i hi
      exact if_pos hi
  · intro i subresponse hsub
    have hi : i < records.length := by
      by_contra hout
      rw [mbrtumGetFileRecordSubresponse] at hsub
      dsimp only at hsub
      rw [if_pos (by omega)] at hsub
      cases hsub
    obtain ⟨subresponse',hsub',hrecord,hregister⟩ :=
      fileRecordSubresponse_eq hrecords (List.getElem?_eq_getElem hi)
    obtain rfl : subresponse = subresponse' := Except.ok.inj (hsub.symm.trans hsub')
    have hwords := hlengths i _ (List.getElem?_eq_getElem hi)
    have hword : subresponse.recordLength = (readSubrequest original (3+7*i)).recordLength := by
      rw [hrecord,hwords]
      simp
    refine ⟨hword,?_⟩
    rw [hword,← hwords]
    exact indexed_of_eq _ hregister

end Records

section Objects
variable {request : Request} {adu : Mem Byte} {length : Nat} {response : Response}

theorem checkDeviceId_response (h : checkDeviceId request adu length = (.ok,response)) :
    response = ⟨request.function,0,some 2,length-4⟩ := by
  simp only [checkDeviceId,reject] at h
  split at h
  · cases h
  split at h
  · cases h
  split at h
  · cases h
  cases hobjects : checkObjects request adu length (adu 3) (effectiveCategory (adu 3) (adu 4))
    (adu 7).toNat 0 8 0 with
  | error e =>
    rw [hobjects] at h
    exact absurd (congrArg Prod.fst h) (checkObjects_error request _ _ hobjects)
  | ok r =>
    rw [hobjects] at h
    dsimp only at h
    split at h
    · cases h
    split at h
    · cases h
    exact accept_eq h

theorem deviceIdObject_eq (identity : DeviceIdResponse) {objects : List IdentityObject} {start : Nat}
    (hstart : identity.objects = some start) (hcount : objects.length = identity.objectCount.toNat)
    (hobjects : ObjectsAt (adu.off start) identity.objectsLength 0 objects) {i : Nat}
    {o : IdentityObject} (hi : objects[i]? = some o) :
    mbrtumGetDeviceIdObject adu identity i =
      .ok ⟨o.objectId,start+(((objects.take i).flatMap IdentityObject.encode).length+2),
        o.value.length⟩ := by
  obtain ⟨place,hseek,hplace,-,h0,h1,-⟩ := seekObject_eq hobjects hi
  obtain ⟨hlt,-⟩ := List.getElem?_eq_some_iff.mp hi
  rw [Nat.zero_add] at hplace
  simp only [Mem.off_apply] at h0 h1
  simp only [mbrtumGetDeviceIdObject,hstart]
  rw [if_neg (by omega),hseek]
  dsimp only
  rw [h0,h1,hplace]

theorem objects_decodable (hf : request.function = 0x2B#8) (hlimit : length ≤ 256)
    (h : checkDeviceId request adu length = (.ok,response)) : ObjectsDecodable adu response := by
  have hresponse := checkDeviceId_response h
  rw [hf] at hresponse
  obtain ⟨page,hstored,hlength,hpage⟩ := checkDeviceId_sound (congrArg Prod.fst h)
  obtain ⟨h2,h3,h4,h5,h6,h7,hs⟩ := stored_body.mp hstored
  rw [body_length] at hlength
  have hle := objects_length_le page.objects
  have hpos := List.length_pos_iff.mpr hpage.nonempty
  have hcount : (adu 7).toNat = page.objects.length := by
    rw [h7,BitVec.toNat_ofNat]
    omega
  have hdecode := deviceIdResponse_eq hresponse (by omega) h2
  have hsizes : ∀ o ∈ page.objects, o.value.length < 256 := by
    intro o ho
    have hsub : o.encode.Sublist (page.objects.flatMap IdentityObject.encode) := by
      rw [List.flatMap_def]
      exact List.sublist_flatten_of_mem (List.mem_map_of_mem ho)
    have := hsub.length_le
    rw [o.encode_length] at this
    omega
  have hobjects : ObjectsAt (adu.off 8) (length-4-6) 0 page.objects :=
    ⟨(stored_off adu 8 0 _).mpr hs,by omega,hsizes⟩
  have hobject := fun i o hi => deviceIdObject_eq (i := i) (o := o)
    ⟨adu 3,adu 4,adu 5,adu 6,adu 7,some 8,length-4-6⟩ rfl hcount.symm hobjects hi
  refine ⟨_,page.objects,8,hdecode,rfl,hcount.symm,hpage.ascending,by dsimp only; omega,hs,?_,hobject⟩
  constructor
  · intro i hi
    rw [hcount] at hi
    exact ⟨_,hobject i _ (List.getElem?_eq_getElem hi)⟩
  · intro i hi
    exact if_pos hi

end Objects

section Validated
variable {request : Request} {original : Mem Byte} {originalLength : Nat}
variable {adu : Mem Byte} {length : Nat} {response : Response}

theorem checkDiagnostics_response
    (h : checkDiagnostics request original originalLength adu length = (.ok,response)) :
    response = ⟨request.function,0,some 2,length-4⟩ ∧ 6 ≤ length ∧ (length-6)%2 = 0 := by
  simp only [checkDiagnostics,reject] at h
  split_ifs at h
  all_goals first
    | cases h; done
    | exact ⟨accept_eq h,by omega,by omega⟩

theorem checkExceptionStatus_response (h : checkExceptionStatus request length = (.ok,response)) :
    response = ⟨request.function,0,some 2,1⟩ ∧ length = 5 := by
  simp only [checkExceptionStatus,reject] at h
  split at h
  · cases h
  · exact ⟨accept_eq h,by omega⟩

theorem checkCommEventCounter_response (h : checkCommEventCounter request length = (.ok,response)) :
    response = ⟨request.function,0,some 2,4⟩ ∧ length = 8 := by
  simp only [checkCommEventCounter,reject] at h
  split at h
  · cases h
  · exact ⟨accept_eq h,by omega⟩

theorem checkMei_response (h : checkMei request adu length = (.ok,response)) :
    response = ⟨request.function,0,some 2,length-4⟩ := by
  simp only [checkMei,reject] at h
  split_ifs at h
  all_goals first
    | cases h; done
    | exact accept_eq h

structure ViewFits (request : Request) (length : Nat) (response : Response) : Prop where
  function : response.function = request.function
  exceptionCode : response.exceptionCode = 0#8
  view : ∀ start, response.data = some start → start+response.dataLength ≤ length-2

theorem fits_of_eq {start n : Nat} (h : response = ⟨request.function,0,some start,n⟩)
    (hle : start+n ≤ length-2) : ViewFits request length response := by
  obtain rfl := h
  refine ⟨rfl,rfl,fun start' heq => ?_⟩
  cases heq
  exact hle

theorem fits_of_none {n : Nat} (h : response = ⟨request.function,0,none,n⟩) :
    ViewFits request length response := by
  obtain rfl := h
  exact ⟨rfl,rfl,fun start heq => by cases heq⟩

theorem checkNormalResponse_view (hlength : 5 ≤ length)
    (h : checkNormalResponse request original originalLength adu length = (.ok,response)) :
    ViewFits request length response := by
  unfold checkNormalResponse at h
  split at h
  case h_1 | h_2 =>
    obtain ⟨heq,hlen⟩ := checkReadBits_response h
    exact fits_of_eq heq (by omega)
  case h_3 =>
    obtain ⟨heq,hlen,-⟩ := checkReadFileRecord_response h
    exact fits_of_eq heq (by omega)
  case h_4 =>
    simp only [checkWriteFileRecord,reject] at h
    split_ifs at h
    all_goals first
      | cases h; done
      | exact fits_of_none (accept_eq h)
  case h_5 | h_6 | h_7 =>
    obtain ⟨heq,hlen⟩ := checkReadRegisters_response h
    exact fits_of_eq heq (by omega)
  case h_8 | h_9 | h_10 | h_11 =>
    simp only [checkWriteAck,reject] at h
    split_ifs at h
    all_goals first
      | cases h; done
      | exact fits_of_none (accept_eq h)
  case h_12 =>
    simp only [checkMaskWriteAck,reject] at h
    split_ifs at h
    all_goals first
      | cases h; done
      | exact fits_of_none (accept_eq h)
  case h_13 =>
    obtain ⟨heq,hlen⟩ := checkExceptionStatus_response h
    exact fits_of_eq heq (by omega)
  case h_14 =>
    obtain ⟨heq,hlen,-⟩ := checkDiagnostics_response h
    exact fits_of_eq heq (by omega)
  case h_15 =>
    obtain ⟨heq,hlen⟩ := checkCommEventCounter_response h
    exact fits_of_eq heq (by omega)
  case h_16 =>
    obtain ⟨heq,hlen,-⟩ := checkCommEventLog_response h
    exact fits_of_eq heq (by omega)
  case h_17 =>
    obtain ⟨heq,hlen,-⟩ := checkServerId_response h
    exact fits_of_eq heq (by omega)
  case h_18 =>
    obtain ⟨heq,hlen,-⟩ := checkFifoQueue_response h
    exact fits_of_eq heq (by omega)
  case h_19 =>
    split at h
    · exact fits_of_eq (checkMei_response h) (by omega)
    · exact fits_of_eq (checkDeviceId_response h) (by omega)
  case h_20 => cases h

theorem diagnostics_decodable (h : response = ⟨0x08#8,0,some 2,length-4⟩) (hleast : 6 ≤ length)
    (heven : (length-6)%2 = 0) :
    ∃ d, mbrtumGetDiagnosticsResponse response adu = .ok d ∧
      (2 ≤ d.dataLength → ∃ word, mbrtumGetDiagnosticsWord response adu = .ok word) := by
  have hdecode : mbrtumGetDiagnosticsResponse response adu =
      .ok ⟨readBe16 (adu.off 2),4,length-4-2⟩ := diagnosticsResponse_eq h (by omega) (by omega)
  refine ⟨_,hdecode,fun hword => ⟨(readBe16 (adu.off 2),readBe16 (adu.off 4)),?_⟩⟩
  dsimp only at hword
  rw [mbrtumGetDiagnosticsWord,hdecode]
  dsimp only
  rw [if_neg (by omega)]

end Validated

/-- Validation keeps to the two lengths, and what it accepts is decodable. -/
structure DecodesValidated (request : Request) (original : Option (Mem Byte))
    (originalLength : Nat) (adu : Mem Byte) (length : Nat) : Prop where
  inBounds : ∀ original' adu', (∀ m, original = some m → AgreeUpTo originalLength m original') →
    AgreeUpTo length adu adu' →
    mbrtumProcessResponseWithRequestAdu request original originalLength (some adu) length =
      mbrtumProcessResponseWithRequestAdu request (original.map fun _ => original') originalLength
        (some adu') length
  decodable : ∀ response,
    mbrtumProcessResponseWithRequestAdu request original originalLength (some adu) length =
      (.ok,response) →
    FullyDecodable request (original.getD fun _ => 0) originalLength adu length response

structure NormalResponse (request : Request) (original : Option (Mem Byte)) (originalLength : Nat)
    (adu : Mem Byte) (length : Nat) (response : Response) : Prop where
  descriptor : validateFunctionFields request = .ok
  valid : requiresRequestAdu request.function = true →
    originalRequestAduIsValid request original originalLength = true
  least : 5 ≤ length
  most : length ≤ 256
  checked : checkNormalResponse request (original.getD fun _ => 0) originalLength adu length =
    (.ok,response)

theorem processResponse_normal {request : Request} {original : Option (Mem Byte)}
    {originalLength : Nat} {adu : Mem Byte} {length : Nat} {response : Response}
    (h : mbrtumProcessResponseWithRequestAdu request original originalLength (some adu) length =
      (.ok,response)) : NormalResponse request original originalLength adu length response := by
  simp only [mbrtumProcessResponseWithRequestAdu] at h
  split at h
  · rename_i hd
    split at h
    · cases h
    rename_i hneeded
    obtain ⟨⟨hleast,hmost⟩,hcrc,haddress,hexception,hfunction,-⟩ :=
      checkResponse_ok_iff.mp (congrArg Prod.fst h)
    rw [checkResponse,if_neg (by omega),if_neg (not_not.mpr hcrc),if_neg (not_not.mpr haddress),
      if_neg hexception,if_neg (not_not.mpr hfunction)] at h
    refine ⟨descriptor_fields hd,fun hr => ?_,hleast,hmost,h⟩
    simpa [hr] using hneeded
  · rename_i hd
    exact absurd (congrArg Prod.fst h) hd

theorem validatedResponses_decodable (request : Request) (original : Option (Mem Byte))
    (originalLength : Nat) (adu : Mem Byte) (length : Nat) :
    DecodesValidated request original originalLength adu length where
  inBounds := fun original' _ horiginal h =>
    processResponse_inBounds request original original' originalLength length horiginal h
  decodable := by
    intro response h
    obtain ⟨hdescriptor,hvalid,hleast,hmost,hchecked⟩ := processResponse_normal h
    obtain ⟨hfunction,-,hview⟩ := checkNormalResponse_view hleast hchecked
    -- one field for each function, with the branch of the switch that it takes
    refine ⟨hview,fun adu' hagree => decoders_inBounds request response hagree,?_,?_,?_,?_,?_,?_,?_,
      ?_,?_,?_,?_⟩
    · intro hf
      have hbits : checkReadBits request adu length = (.ok,response) := by
        simp only [List.mem_cons,List.not_mem_nil,or_false] at hf
        rcases hf with hf | hf
        · simpa [checkNormalResponse,hf] using hchecked
        · simpa [checkNormalResponse,hf] using hchecked
      exact indexed_of_eq _ (mbrtumGetBit_eq hf (checkReadBits_response hbits).1)
    · intro hf
      have hregisters : checkReadRegisters request adu length = (.ok,response) := by
        simp only [List.mem_cons,List.not_mem_nil,or_false] at hf
        rcases hf with hf | hf | hf
        · simpa [checkNormalResponse,hf] using hchecked
        · simpa [checkNormalResponse,hf] using hchecked
        · simpa [checkNormalResponse,hf] using hchecked
      exact indexed_of_eq _ (mbrtumGetRegister_eq hf (checkReadRegisters_response hregisters).1)
    · intro hf
      have hrecords : checkReadFileRecord request (original.getD fun _ => 0) originalLength adu
          length = (.ok,response) := by simpa [checkNormalResponse,hf] using hchecked
      have horiginal := hvalid (by rw [hf]; rfl)
      cases original with
      | none => cases horiginal
      | some m => exact fileRecords_decodable hf hdescriptor horiginal hrecords
    · intro hf hvalue
      have hobjects : checkDeviceId request adu length = (.ok,response) := by
        simpa [checkNormalResponse,hf,hvalue] using hchecked
      exact objects_decodable hf hmost hobjects
    · intro hf
      have hfifo : checkFifoQueue request adu length = (.ok,response) := by
        simpa [checkNormalResponse,hf] using hchecked
      obtain ⟨heq,-,hcount⟩ := checkFifoQueue_response hfifo
      rw [hf] at heq
      exact fifo_decodable heq hcount
    · intro hf
      have hserver : checkServerId request adu length = (.ok,response) := by
        simpa [checkNormalResponse,hf] using hchecked
      obtain ⟨heq,-,hn,hlimit,hstatus⟩ := checkServerId_response hserver
      have hquantity : request.quantity.toNat ≠ 0 ∧ request.quantity.toNat ≤ 250 := by
        simp only [validateFunctionFields,hf,BitVec.reduceToNat] at hdescriptor
        split at hdescriptor
        · cases hdescriptor
        · rename_i hbad
          simp only [not_or] at hbad
          exact ⟨fun hz => hbad.2.1 (BitVec.eq_of_toNat_eq hz),by omega⟩
      rw [hf] at heq
      exact serverId_decodable hf hquantity heq hn hlimit hstatus
    · intro hf
      have hevents : checkCommEventLog request adu length = (.ok,response) := by
        simpa [checkNormalResponse,hf] using hchecked
      obtain ⟨heq,-,hn,hlimit⟩ := checkCommEventLog_response hevents
      rw [hf] at heq
      exact events_decodable heq hn hlimit
    · intro hf
      have hstatus : checkExceptionStatus request length = (.ok,response) := by
        simpa [checkNormalResponse,hf] using hchecked
      obtain ⟨heq,-⟩ := checkExceptionStatus_response hstatus
      rw [hf] at heq
      exact ⟨adu 2,exceptionStatus_eq heq⟩
    · intro hf
      have hcounter : checkCommEventCounter request length = (.ok,response) := by
        simpa [checkNormalResponse,hf] using hchecked
      obtain ⟨heq,-⟩ := checkCommEventCounter_response hcounter
      rw [hf] at heq
      exact ⟨_,commEventCounter_eq heq⟩
    · intro hf
      have hdiagnostics : checkDiagnostics request (original.getD fun _ => 0) originalLength adu
          length = (.ok,response) := by simpa [checkNormalResponse,hf] using hchecked
      obtain ⟨heq,hlen,heven⟩ := checkDiagnostics_response hdiagnostics
      rw [hf] at heq
      exact diagnostics_decodable heq hlen heven
    · intro hf
      have heq : response = ⟨request.function,0,some 2,length-4⟩ := by
        by_cases hvalue : request.value = 0x0E#16
        · exact checkDeviceId_response (by simpa [checkNormalResponse,hf,hvalue] using hchecked)
        · exact checkMei_response (by simpa [checkNormalResponse,hf,hvalue] using hchecked)
      rw [hf] at heq
      exact ⟨_,meiResponse_eq heq (by omega)⟩

end ModbusStack
