import ModbusStack.Exchange
import ModbusStack.FileRecordWrites

/-! Exchanges of the functions on files and FIFO queues. -/
set_option autoImplicit false

namespace ModbusStack
open ByteMemory

/-! FC18h. -/

def FifoDelivered (d : DataModel) (pointer : Word) (adu : Mem Byte) (response : Response) : Prop :=
  ∃ queue fifo, findFifoUnlocked d.fifo pointer = some queue ∧
    mbrtumGetFifoResponse response adu = .ok fifo ∧ fifo.fifoCount = d.memory queue.registers ∧
    Yields BitVec.toNat (mbrtumGetFifoRegister adu fifo)
      (slice d.memory (queue.registers+1) (d.memory queue.registers).toNat)

theorem fifo_ok {s server : Server} {pdu : Mem Byte} {capacity : Nat} {tail : List Byte}
    (h : mbFifoProcessReadRequest s pdu 3 capacity = (.ok (0x18#8 :: tail),server)) :
    ∃ queue, findFifoUnlocked s.data.fifo (be16 (pdu 1) (pdu 2)) = some queue ∧
      (s.data.memory queue.registers).toNat ≤ 31 ∧
      tail = writeBe16 (BitVec.ofNat 16 (2+(s.data.memory queue.registers).toNat*2)) ++
        writeBe16 (s.data.memory queue.registers) ++
        encodeWords (slice s.data.memory (queue.registers+1)
          (s.data.memory queue.registers).toNat) := by
  simp only [mbFifoProcessReadRequest,ne_eq,not_true_eq_false,if_false] at h
  split at h
  · cases h
  rename_i queue hqueue
  split at h
  · cases h
  rename_i hcount
  split at h
  · cases h
  split at h
  · cases h
  simp only [Server.emit_data] at hqueue hcount h
  obtain ⟨-,htail⟩ := List.cons.inj (Except.ok.inj (Prod.mk.inj h).1)
  exact ⟨queue,hqueue,by omega,htail.symm⟩

theorem accepts_fifo {a : Byte} {pointer count : Word} {values : List Word} {tail : List Byte}
    (hcount : values.length = count.toNat) (hmost : count.toNat ≤ 31)
    (htail : tail = writeBe16 (BitVec.ofNat 16 (2+count.toNat*2)) ++ writeBe16 count ++
      encodeWords values) :
    ∃ response, (WireRequest.readFifoQueue pointer).Accepts a tail response ∧
      ∃ fifo, mbrtumGetFifoResponse response (ofList (appendCrc (a :: 0x18#8 :: tail))) = .ok fifo ∧
        fifo.fifoCount = count ∧ Yields BitVec.toNat
          (mbrtumGetFifoRegister (ofList (appendCrc (a :: 0x18#8 :: tail))) fifo) values := by
  have hstored := reply_stored a 0x18#8 tail
  have hlen : tail.length+4 = 6+(2+count.toNat*2) := by
    rw [htail]
    simp [hcount]
    omega
  nth_rewrite 2 [htail] at hstored
  generalize hadu : ofList (appendCrc (a :: 0x18#8 :: tail)) = adu at hstored ⊢
  simp only [writeBe16,List.cons_append,List.nil_append,stored_cons,Nat.reduceAdd] at hstored
  obtain ⟨h2,h3,h4,h5,hwords⟩ := hstored
  have hread : readBe16 (adu.off 4) = count := by simp [h4,h5]
  have hbytes : (readBe16 (adu.off 2)).toNat = 2+count.toNat*2 := by
    simp only [readBe16_off,h2,h3,be16_bytes,BitVec.toNat_ofNat]
    omega
  have hresponse : (⟨0x18#8,0,some 4,2+count.toNat*2⟩ : Response) =
      ⟨0x18#8,0,some 4,2+(readBe16 (adu.off 4)).toNat*2⟩ := by rw [hread]
  refine ⟨⟨0x18#8,0,some 4,2+count.toNat*2⟩,?_,_,
    fifoResponse_eq hresponse (by rw [hread]; exact hmost),hread,?_⟩
  · rw [WireRequest.Accepts,hlen]
    simp only [checkNormalResponse,WireRequest.descriptor_function,WireRequest.function,
      BitVec.reduceToNat]
    rw [hadu,checkFifoQueue,if_neg (by omega),hbytes,hread]
    dsimp only
    rw [if_neg (by omega),if_neg (by omega),if_neg (by omega)]
    rfl
  · refine yields_of_eq 0#16 fun index => ?_
    rw [fifoRegister_eq (by rw [hread]; exact hmost),hread,hcount]
    split
    · rfl
    · rw [Nat.mul_comm,stored_readWord hwords index.toNat (by omega)]
      rfl

section Fifo
variable {cfg : Platform} {a : Byte} {s : Slave} {policy : DiagnosticsPolicy}

theorem exchange_fifo {pointer : Word} (hawake : s.isListenOnly = false)
    (h : (WireRequest.readFifoQueue pointer).WellFormed a)
    (ha : (WireRequest.readFifoQueue pointer).answered a = true) :
    Exchanges cfg (.readFifoQueue pointer) a s policy fun adu response _ =>
      FifoDelivered s.server.data pointer adu response := by
  refine .handled h ha hawake (.inr rfl) (by simp [WireRequest.function])
    fun tail server after hfunction hserver => ?_
  have hpdu := WireRequest.arrival_pdu (w := .readFifoQueue pointer) (a := a) policy
  simp only [WireRequest.pdu,WireRequest.body,WireRequest.function,writeBe16,stored_cons] at hpdu
  obtain ⟨h0,h1,h2,-⟩ := hpdu
  simp only [processPduFunction,h0,BitVec.reduceToNat] at hfunction
  rw [if_neg (by simp [WireRequest.pdu])] at hfunction
  obtain ⟨queue,hqueue,hmost,htail⟩ := fifo_ok hfunction
  rw [h1,h2,be16_bytes] at hqueue
  obtain ⟨response,haccepts,fifo,hfifo,hcount,hyields⟩ :=
    accepts_fifo (a := a) (slice_length _ _ _) hmost htail
  exact ⟨response,haccepts,queue,fifo,hqueue,hfifo,hcount,hyields⟩

end Fifo

/-! FC14h. -/

def heldRecords (d : DataModel) (r : FileRecordRequest) : List Word :=
  match findFileRecordUnlocked d.fileRecord r.fileNumber with
  | some file => readRecords d.memory file r.recordNumber.toNat r.recordLength.toNat
  | none => []

def FileRecordsDelivered (d : DataModel) (subrequests : List FileRecordRequest) (adu : Mem Byte)
    (response : Response) : Prop :=
  ∃ records, mbrtumGetFileRecordResponse response adu = .ok records ∧
    records.subresponseCount = subrequests.length ∧
    (∀ i, subrequests.length ≤ i →
      mbrtumGetFileRecordSubresponse adu records i = .error .errorIndex) ∧
    ∀ i r, subrequests[i]? = some r → (heldRecords d r).length = r.recordLength.toNat ∧
      ∃ subresponse, mbrtumGetFileRecordSubresponse adu records i = .ok subresponse ∧
        subresponse.recordLength = r.recordLength ∧
        Yields BitVec.toNat (mbrtumGetFileRecordRegister adu subresponse) (heldRecords d r)

section ReadFiles
variable {d : DataModel} {pdu : Mem Byte} {len : Nat}

theorem validateReadSubrequests_encode (subrequests : List FileRecordRequest)
    {fuel offset total n : Nat} (hend : len = offset+7*subrequests.length)
    (hfuel : subrequests.length ≤ fuel)
    (hstored : Stored pdu offset (subrequests.flatMap FileRecordRequest.encode))
    (hok : validateReadSubrequests d.fileRecord pdu len fuel offset total = .ok n) :
    n = total+WireRequest.readLength subrequests ∧
      ∀ r ∈ subrequests, (heldRecords d r).length = r.recordLength.toNat := by
  induction subrequests generalizing fuel offset total with
  | nil =>
    rw [List.length_nil] at hend
    have hstop : validateReadSubrequests d.fileRecord pdu len fuel offset total = .ok total := by
      cases fuel with
      | zero => rfl
      | succ fuel => rw [validateReadSubrequests,if_neg (by omega)]
    rw [hstop] at hok
    exact ⟨(Except.ok.inj hok).symm,by simp⟩
  | cons r rest ih =>
    rw [List.length_cons] at hend hfuel
    obtain ⟨fuel,rfl⟩ := Nat.exists_eq_succ_of_ne_zero (show fuel ≠ 0 by omega)
    rw [List.flatMap_cons,stored_append,r.encode_length] at hstored
    rw [validateReadSubrequests,if_pos (by omega)] at hok
    dsimp only at hok
    rw [readSubrequest_stored hstored.1] at hok
    dsimp only at hok
    split_ifs at hok with htype hempty hrange hbad hroom
    obtain ⟨hn,hrest⟩ := ih (by omega) (by omega) hstored.2 hok
    refine ⟨by rw [WireRequest.readLength_cons]; omega,?_⟩
    simp only [List.mem_cons,forall_eq_or_imp]
    refine ⟨?_,hrest⟩
    simp only [fileRangeIsBad] at hbad
    unfold heldRecords
    cases hfind : findFileRecordUnlocked d.fileRecord r.fileNumber with
    | none =>
      rw [hfind] at hbad
      exact absurd rfl hbad
    | some file => exact slice_length _ _ _

theorem emitReadSubresponses_encode (subrequests : List FileRecordRequest) {fuel offset : Nat}
    (hend : len = offset+7*subrequests.length) (hfuel : subrequests.length ≤ fuel)
    (hstored : Stored pdu offset (subrequests.flatMap FileRecordRequest.encode))
    (hheld : ∀ r ∈ subrequests, (heldRecords d r).length = r.recordLength.toNat) :
    emitReadSubresponses d pdu len fuel offset =
      (subrequests.map (heldRecords d)).flatMap encodeSubresponse := by
  induction subrequests generalizing fuel offset with
  | nil =>
    rw [List.length_nil] at hend
    cases fuel with
    | zero => rfl
    | succ fuel =>
      rw [emitReadSubresponses,if_neg (by omega)]
      rfl
  | cons r rest ih =>
    rw [List.length_cons] at hend hfuel
    obtain ⟨fuel,rfl⟩ := Nat.exists_eq_succ_of_ne_zero (show fuel ≠ 0 by omega)
    rw [List.flatMap_cons,stored_append,r.encode_length] at hstored
    simp only [List.mem_cons,forall_eq_or_imp] at hheld
    rw [emitReadSubresponses,if_pos (by omega)]
    dsimp only
    rw [ih (by omega) (by omega) hstored.2 hheld.2,readSubrequest_stored hstored.1,List.map_cons,
      List.flatMap_cons,encodeSubresponse,hheld.1,Nat.mul_comm 2]
    unfold heldRecords
    cases findFileRecordUnlocked d.fileRecord r.fileNumber with
    | none => rfl
    | some file => rfl

end ReadFiles

theorem subresponses_length_eq {f : FileRecordRequest → List Word}
    (subrequests : List FileRecordRequest)
    (hf : ∀ r ∈ subrequests, (f r).length = r.recordLength.toNat) :
    ((subrequests.map f).flatMap encodeSubresponse).length = WireRequest.readLength subrequests := by
  induction subrequests with
  | nil => rfl
  | cons r rest ih =>
    simp only [List.mem_cons,forall_eq_or_imp] at hf
    rw [List.map_cons,List.flatMap_cons,List.length_append,encodeSubresponse_length,hf.1,ih hf.2,
      WireRequest.readLength_cons]
    omega

theorem matchSubresponses_encode {f : FileRecordRequest → List Word} {original adu : Mem Byte}
    {originalLength length requestOffset responseOffset : Nat}
    (subrequests : List FileRecordRequest)
    (hf : ∀ r ∈ subrequests, (f r).length = r.recordLength.toNat ∧ r.recordLength.toNat < 127)
    (horiginal : Stored original requestOffset (subrequests.flatMap FileRecordRequest.encode))
    (hadu : Stored adu responseOffset ((subrequests.map f).flatMap encodeSubresponse))
    (hrequest : requestOffset+7*subrequests.length ≤ originalLength-2)
    (hresponse : responseOffset+WireRequest.readLength subrequests ≤ length-2) :
    matchSubresponses original originalLength adu length subrequests.length requestOffset
        responseOffset =
      .ok (requestOffset+7*subrequests.length,
        responseOffset+WireRequest.readLength subrequests) := by
  induction subrequests generalizing requestOffset responseOffset with
  | nil => rfl
  | cons r rest ih =>
    simp only [List.mem_cons,forall_eq_or_imp] at hf
    obtain ⟨⟨hlength,hsize⟩,hrest⟩ := hf
    rw [List.flatMap_cons,stored_append,r.encode_length] at horiginal
    rw [List.map_cons,List.flatMap_cons,stored_append,encodeSubresponse_length,hlength] at hadu
    rw [List.length_cons] at hrequest ⊢
    rw [WireRequest.readLength_cons] at hresponse ⊢
    have hrecord : readBe16 (original.off (requestOffset+5)) = r.recordLength :=
      congrArg Subrequest.recordLength (readSubrequest_stored horiginal.1)
    obtain ⟨h0,h1,-⟩ := subresponse_stored hadu.1 (by omega)
    rw [hlength] at h0
    have hnext := ih hrest horiginal.2 (by rw [Nat.mul_comm 2] at hadu; exact hadu.2) (by omega)
      (by omega)
    rw [matchSubresponses,if_neg (by omega)]
    dsimp only
    rw [hrecord,if_neg (by rw [h0,h1]; simp; omega),if_neg (by omega),
      show responseOffset+(1+(1+r.recordLength.toNat*2)) =
        responseOffset+(2+r.recordLength.toNat*2) by omega,hnext]
    congr 2 <;> omega

theorem recordLength_lt {subrequests : List FileRecordRequest}
    (hmost : WireRequest.readLength subrequests ≤ 245) :
    ∀ r ∈ subrequests, r.recordLength.toNat < 127 := by
  intro r hr
  have hle : r.responseLength ≤ WireRequest.readLength subrequests :=
    List.single_le_sum (fun _ _ => Nat.zero_le _) _ (List.mem_map_of_mem hr)
  simp only [FileRecordRequest.responseLength] at hle
  omega

theorem accepts_readFileRecord {a : Byte} {d : DataModel} {subrequests : List FileRecordRequest}
    {tail : List Byte} (h : (WireRequest.readFileRecord subrequests).WellFormed a)
    (hheld : ∀ r ∈ subrequests, (heldRecords d r).length = r.recordLength.toNat)
    (htail : tail = BitVec.ofNat 8 (WireRequest.readLength subrequests) ::
      (subrequests.map (heldRecords d)).flatMap encodeSubresponse) :
    ∃ response, (WireRequest.readFileRecord subrequests).Accepts a tail response ∧
      FileRecordsDelivered d subrequests (ofList (appendCrc (a :: 0x14#8 :: tail))) response := by
  obtain ⟨-,hne,hcount,hvalid,hmost⟩ := h
  have hleast := (WireRequest.readLength_bounds hne hvalid).1
  have hlt := recordLength_lt hmost
  have hlength := subresponses_length_eq subrequests hheld
  have hstored := reply_stored a 0x14#8 tail
  have hlen : tail.length+4 = 5+WireRequest.readLength subrequests := by
    rw [htail,List.length_cons,hlength]
    omega
  nth_rewrite 2 [htail] at hstored
  generalize hadu : ofList (appendCrc (a :: 0x14#8 :: tail)) = adu at hstored ⊢
  rw [stored_cons] at hstored
  obtain ⟨h2,hrecords⟩ := hstored
  have hframed := WireRequest.framed
    (slice_ofList (appendCrc ((WireRequest.readFileRecord subrequests).frame a)))
  have horiginal := hframed.body
  have horiginalLength := hframed.length_eq
  simp only [WireRequest.body,List.cons_append,List.nil_append,stored_cons,List.length_cons,
    flatMap_encode_length] at horiginal horiginalLength
  have hq : (BitVec.ofNat 16 (WireRequest.readLength subrequests)).toNat =
      WireRequest.readLength subrequests := WireRequest.ofNat16_toNat (by omega)
  have hv : (BitVec.ofNat 16 subrequests.length).toNat = subrequests.length :=
    WireRequest.ofNat16_toNat (by omega)
  have hmatch : matchSubresponses
      (ofList (appendCrc ((WireRequest.readFileRecord subrequests).frame a)))
      (appendCrc ((WireRequest.readFileRecord subrequests).frame a)).length adu
      (5+WireRequest.readLength subrequests) subrequests.length 3 3 =
        .ok (3+7*subrequests.length,3+WireRequest.readLength subrequests) :=
    matchSubresponses_encode subrequests (fun r hr => ⟨hheld r hr,hlt r hr⟩) horiginal.2 hrecords
      (by rw [horiginalLength]; omega) (by omega)
  have hat : SubresponsesAt (adu.off 3) (WireRequest.readLength subrequests) 0
      (subrequests.map (heldRecords d)) := by
    refine ⟨(stored_off adu 3 0 _).mpr hrecords,by rw [hlength]; omega,?_⟩
    simp only [List.mem_map,forall_exists_index,and_imp,forall_apply_eq_imp_iff₂]
    intro r hr
    have hpos := (hvalid r hr).range
    simp only [fileRecordRangeIsValid,decide_eq_true_eq] at hpos
    refine ⟨fun hnil => ?_,by rw [hheld r hr]; have := hlt r hr; omega⟩
    have := hheld r hr
    rw [hnil,List.length_nil] at this
    omega
  refine ⟨⟨0x14#8,0,some 3,WireRequest.readLength subrequests⟩,?_,_,
    fileRecordResponse_eq hat rfl hleast hmost,by simp,?_,?_⟩
  · rw [WireRequest.Accepts,hlen]
    simp only [checkNormalResponse,WireRequest.descriptor_function,WireRequest.function,
      BitVec.reduceToNat]
    rw [hadu,checkReadFileRecord]
    simp only [WireRequest.descriptor,finishRequest,hq,hv,h2,WireRequest.loByte_ofNat,hmatch]
    rw [if_neg (by simp),if_neg (by simp),if_neg (by rw [horiginalLength]; omega),accept]
  · intro i hi
    rw [mbrtumGetFileRecordSubresponse]
    dsimp only
    rw [if_pos (by simpa using hi)]
  · intro i r hi
    have hr := List.mem_of_getElem? hi
    obtain ⟨subresponse,hsub,hrecord,hregister⟩ := fileRecordSubresponse_eq hat
      (show (subrequests.map (heldRecords d))[i]? = some (heldRecords d r) by simp [hi])
    refine ⟨hheld r hr,subresponse,hsub,?_,yields_of_eq 0#16 hregister⟩
    rw [hrecord,hheld r hr]
    simp

theorem exchange_readFileRecord {cfg : Platform} {a : Byte} {s : Slave} {policy : DiagnosticsPolicy}
    {subrequests : List FileRecordRequest} (hawake : s.isListenOnly = false)
    (h : (WireRequest.readFileRecord subrequests).WellFormed a)
    (ha : (WireRequest.readFileRecord subrequests).answered a = true) :
    Exchanges cfg (.readFileRecord subrequests) a s policy fun adu response _ =>
      FileRecordsDelivered s.server.data subrequests adu response := by
  refine .handled h ha hawake (.inr rfl) (by simp [WireRequest.function])
    fun tail server after hfunction hserver => ?_
  have hpdu := WireRequest.arrival_pdu (w := .readFileRecord subrequests) (a := a) policy
  simp only [WireRequest.pdu,WireRequest.body,WireRequest.function,List.cons_append,List.nil_append,
    stored_cons] at hpdu
  obtain ⟨h0,h1,hsubrequests⟩ := hpdu
  have hlen : (WireRequest.readFileRecord subrequests).pdu.length = 2+7*subrequests.length := by
    simp only [WireRequest.pdu,WireRequest.body,List.length_cons,List.length_append,
      flatMap_encode_length,List.length_nil]
    omega
  simp only [processPduFunction,h0,BitVec.reduceToNat] at hfunction
  rw [if_neg (by omega),mbFileRecordProcessReadRequest,if_neg (by omega)] at hfunction
  dsimp only at hfunction
  split at hfunction
  · cases hfunction
  simp only [Server.emit_data] at hfunction
  split at hfunction
  · cases hfunction
  rename_i n hvalid
  split at hfunction
  · cases hfunction
  obtain ⟨hn,hheld⟩ := validateReadSubrequests_encode subrequests hlen (by omega) hsubrequests hvalid
  rw [emitReadSubresponses_encode subrequests hlen (by omega) hsubrequests hheld,hn,
    Nat.zero_add] at hfunction
  obtain ⟨-,htail⟩ := List.cons.inj (Except.ok.inj (Prod.mk.inj hfunction).1)
  exact accepts_readFileRecord h hheld htail.symm

/-! FC15h. -/

def fileWrites (subrequests : List (FileRecordRequest × List Word)) : List FileWrite :=
  subrequests.map fun r => ⟨r.1.fileNumber,r.1.recordNumber,r.2⟩

/-- Whatever files the slave has been configured with, they hold the written records. -/
structure FileRecordsWritten (before after : DataModel)
    (subrequests : List (FileRecordRequest × List Word)) : Prop where
  onlyMemory : after = { before with memory := after.memory }
  contents : ∀ files n, HoldsFiles before.fileRecord files n → DisjointArrays files n →
    (∀ w ∈ fileWrites subrequests, WriteAccepted files n w) ∧
    ∀ k, HasRecord files n k → fileContents files n after.memory k =
      ((fileWrites subrequests).map FileWrite.cells).foldl overlay
        (fileContents files n before.memory) k

theorem fileWrites_encode (subrequests : List (FileRecordRequest × List Word))
    (hlength : ∀ r ∈ subrequests, r.2.length = r.1.recordLength.toNat) :
    (fileWrites subrequests).flatMap FileWrite.encode =
      subrequests.flatMap encodeWriteSubrequest := by
  rw [fileWrites,List.flatMap_map]
  apply List.flatMap_congr
  intro r hr
  have hcount : BitVec.ofNat 16 r.2.length = r.1.recordLength := by
    rw [hlength r hr]
    simp
  simp only [FileWrite.encode,encodeWriteSubrequest,FileRecordRequest.encode,hcount]

theorem writeRequest_response {s server : Server} {pdu : Mem Byte} {len capacity : Nat}
    {response : List Byte}
    (h : mbFileRecordProcessWriteRequest s pdu len capacity = (.ok response,server)) :
    response = slice pdu 0 len := by
  simp only [mbFileRecordProcessWriteRequest] at h
  repeat' split at h
  all_goals first
    | exact (Except.ok.inj (Prod.mk.inj h).1).symm
    | exact absurd (Prod.mk.inj h).1 (by simp)

theorem applyWriteSubrequests_data (pdu : Mem Byte) (len fuel offset : Nat) (s : Server) :
    (applyWriteSubrequests pdu len fuel offset s).data =
      { s.data with memory := (applyWriteSubrequests pdu len fuel offset s).data.memory } := by
  induction fuel generalizing offset s with
  | zero => rfl
  | succ fuel ih =>
    simp only [applyWriteSubrequests]
    split
    · rw [ih]
      cases findFileRecordUnlocked s.data.fileRecord (readSubrequest pdu offset).fileNumber with
      | none => rfl
      | some file =>
        dsimp only
        rw [writeRecords_eq,writeWords_data]
    · rfl

theorem writeRequest_data (s : Server) (pdu : Mem Byte) (len capacity : Nat) :
    (mbFileRecordProcessWriteRequest s pdu len capacity).2.data =
      { s.data with memory := (mbFileRecordProcessWriteRequest s pdu len capacity).2.data.memory } := by
  simp only [mbFileRecordProcessWriteRequest]
  repeat' split
  all_goals first
    | rfl
    | simp only [Server.emit_data]; exact applyWriteSubrequests_data _ _ _ _ (s.emit .lock)

/-- The effect of an accepted request is that of the sub-requests that were built. -/
theorem fileRecords_written {s server : Server} {pdu : Mem Byte} {len : Nat} {response : List Byte}
    {subrequests : List (FileRecordRequest × List Word)}
    (hlength : ∀ r ∈ subrequests, r.2.length = r.1.recordLength.toNat)
    (hstored : Stored pdu 2 (subrequests.flatMap encodeWriteSubrequest))
    (hlen : len = 2+(subrequests.flatMap encodeWriteSubrequest).length)
    (h : mbFileRecordProcessWriteRequest s pdu len 253 = (.ok response,server)) :
    FileRecordsWritten s.data server.data subrequests := by
  rw [← fileWrites_encode subrequests hlength] at hstored hlen
  have hmemory : ∀ files n, HoldsFiles s.data.fileRecord files n → ∃ writes,
      WriteRequest files n pdu len writes ∧ writes = fileWrites subrequests := by
    intro files n hfiles
    obtain ⟨⟨writes,hw⟩,-⟩ := writeRequest_of_ok hfiles (congrArg Prod.fst h)
    refine ⟨writes,hw,encodedWrites_unique hw.tiled.stored hstored ?_ ?_ ?_⟩
    · have := hw.tiled.exact
      omega
    · intro w hw'
      have := (hw.tiled.accepted w hw').range
      omega
    · intro w hw'
      simp only [fileWrites,List.mem_map] at hw'
      obtain ⟨r,hr,rfl⟩ := hw'
      have := hlength r hr
      dsimp only
      omega
  refine ⟨?_,fun files n hfiles hdisjoint => ?_⟩
  · have hdata := writeRequest_data s pdu len 253
    rw [h] at hdata
    exact hdata
  · obtain ⟨writes,hw,rfl⟩ := hmemory files n hfiles
    have hroom := (writeRequest_of_ok hfiles (congrArg Prod.fst h)).2
    have hprocess := hw.process hfiles hroom
    rw [h] at hprocess
    obtain rfl := (Prod.mk.inj hprocess).2
    refine ⟨hw.tiled.accepted,fun k hk => ?_⟩
    exact hfiles.foldl_perform_contents hdisjoint (s.emit .lock) hw.tiled.accepted hk

theorem exchange_writeFileRecord {cfg : Platform} {a : Byte} {s : Slave} {policy : DiagnosticsPolicy}
    {subrequests : List (FileRecordRequest × List Word)} (hawake : s.isListenOnly = false)
    (h : (WireRequest.writeFileRecord subrequests).WellFormed a)
    (ha : (WireRequest.writeFileRecord subrequests).answered a = true) :
    Exchanges cfg (.writeFileRecord subrequests) a s policy fun _ _ after =>
      FileRecordsWritten s.server.data after.server.data subrequests := by
  have hpdu := WireRequest.arrival_pdu (w := .writeFileRecord subrequests) (a := a) policy
  refine .handled h ha hawake (.inr rfl) (by simp [WireRequest.function])
    fun tail server after hfunction hserver => ?_
  obtain ⟨-,hne,hcount,hvalid,hmost⟩ := id h
  have hlength := fun r hr => (hvalid r hr).2
  have hbytes := hpdu
  simp only [WireRequest.pdu,WireRequest.body,WireRequest.function,List.cons_append,List.nil_append,
    stored_cons] at hbytes
  have hlen : (WireRequest.writeFileRecord subrequests).pdu.length =
      2+(subrequests.flatMap encodeWriteSubrequest).length := by
    simp [WireRequest.pdu,WireRequest.body]
    omega
  simp only [processPduFunction,hbytes.1,BitVec.reduceToNat] at hfunction
  rw [if_neg (by omega)] at hfunction
  have htail := writeRequest_response hfunction
  rw [show slice ((WireRequest.arrival (.writeFileRecord subrequests) a policy).request.off 1) 0
    (WireRequest.writeFileRecord subrequests).pdu.length =
      (WireRequest.writeFileRecord subrequests).pdu from hpdu,WireRequest.pdu] at htail
  obtain ⟨-,rfl⟩ := List.cons.inj htail
  rw [hserver]
  refine ⟨⟨0x15#8,0,none,0⟩,?_,fileRecords_written hlength hbytes.2.2 hlen hfunction⟩
  rw [WireRequest.Accepts]
  simp only [checkNormalResponse,WireRequest.descriptor_function,WireRequest.function,
    BitVec.reduceToNat]
  rw [checkWriteFileRecord,if_neg (by simp [WireRequest.frame,WireRequest.pdu]),
    if_neg (by simp [WireRequest.frame,WireRequest.pdu,WireRequest.function])]
  rfl

end ModbusStack
