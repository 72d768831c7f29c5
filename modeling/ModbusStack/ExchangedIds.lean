import ModbusStack.Exchange

/-! Exchanges of the functions that identify the slave: FC11h and the MEI transports of FC2Bh. -/
set_option autoImplicit false

namespace ModbusStack
open ByteMemory

/-! Application MEI types. -/

def registeredHandler (cfg : Platform) (table : MeiState) (meiType : Byte) :
    Option (MeiHandlerFn × Nat) :=
  ((findHandler cfg table meiType).map table).bind fun e => e.handler.map fun h => (h,e.context)

def MeiDelivered (cfg : Platform) (d : DataModel) (meiType : Byte) (data : List Byte)
    (adu : Mem Byte) (response : Response) : Prop :=
  ∃ handler context result, registeredHandler cfg d.mei meiType = some (handler,context) ∧
    handler context meiType data 251 = (0#8,result) ∧
    ∃ mei, mbrtumGetMeiResponse response adu = .ok mei ∧ mei.meiType = meiType ∧
      mei.dataLength = result.length ∧ Stored adu mei.data result

theorem accepts_mei {a meiType : Byte} {data result tail : List Byte}
    (h : (WireRequest.mei meiType data).WellFormed a) (hmost : result.length ≤ 251)
    (htail : tail = meiType :: result) :
    ∃ response, (WireRequest.mei meiType data).Accepts a tail response ∧
      ∃ mei, mbrtumGetMeiResponse response (ofList (appendCrc (a :: 0x2B#8 :: tail))) = .ok mei ∧
        mei.meiType = meiType ∧ mei.dataLength = result.length ∧
        Stored (ofList (appendCrc (a :: 0x2B#8 :: tail))) mei.data result := by
  obtain ⟨-,hgeneric,-⟩ := h
  have hstored := reply_stored a 0x2B#8 tail
  have hlen : tail.length+4 = 5+result.length := by
    rw [htail,List.length_cons]
    omega
  nth_rewrite 2 [htail] at hstored
  generalize hadu : ofList (appendCrc (a :: 0x2B#8 :: tail)) = adu at hstored ⊢
  rw [stored_cons] at hstored
  obtain ⟨h2,hresult⟩ := hstored
  have hvalue : meiType.setWidth 16 ≠ 0x0E#16 := by
    simp only [meiTypeIsGeneric,decide_eq_true_eq] at hgeneric
    exact hgeneric.2.2
  have hlow : loByte (meiType.setWidth 16) = meiType := by
    apply BitVec.eq_of_toNat_eq
    rw [loByte_toNat,BitVec.toNat_setWidth]
    omega
  refine ⟨⟨0x2B#8,0,some 2,1+result.length⟩,?_,_,meiResponse_eq rfl (by omega),h2,?_,hresult⟩
  · rw [WireRequest.Accepts,hlen]
    simp only [checkNormalResponse,WireRequest.descriptor_function,WireRequest.function,
      BitVec.reduceToNat]
    rw [hadu,if_pos (show ((WireRequest.mei meiType data).descriptor a).value ≠ 0x0E#16 from hvalue),
      checkMei,if_neg (by omega),if_neg,if_neg (by omega),accept,
      show 5+result.length-4 = 1+result.length by omega]
    · rfl
    · rw [h2]
      exact not_not.mpr hlow.symm
  · dsimp only
    omega

theorem exchange_mei {cfg : Platform} {a : Byte} {s : Slave} {policy : DiagnosticsPolicy}
    {meiType : Byte} {data : List Byte} (hawake : s.isListenOnly = false)
    (h : (WireRequest.mei meiType data).WellFormed a)
    (ha : (WireRequest.mei meiType data).answered a = true) :
    Exchanges cfg (.mei meiType data) a s policy fun adu response _ =>
      MeiDelivered cfg s.server.data meiType data adu response := by
  refine .handled h ha hawake (.inr rfl) (by simp [WireRequest.function])
    fun tail server after hfunction hserver => ?_
  have hpdu := WireRequest.arrival_pdu (w := .mei meiType data) (a := a) policy
  have hslice : slice ((WireRequest.arrival (.mei meiType data) a policy).request.off 1) 2
      data.length = data := by
    simp only [WireRequest.pdu,WireRequest.body,stored_cons] at hpdu
    exact hpdu.2.2.slice_eq rfl
  simp only [WireRequest.pdu,WireRequest.body,WireRequest.function,stored_cons] at hpdu
  obtain ⟨h0,h1,-⟩ := hpdu
  obtain ⟨-,hgeneric,hmost⟩ := id h
  have hlen : (WireRequest.mei meiType data).pdu.length = 2+data.length := by
    simp [WireRequest.pdu,WireRequest.body]
    omega
  have hD : meiType ≠ 0x0D#8 := by
    rintro rfl
    simp [meiTypeIsGeneric] at hgeneric
  have hE : meiType ≠ 0x0E#8 := by
    rintro rfl
    simp [meiTypeIsGeneric] at hgeneric
  have hpass : ¬ (2+data.length < 2 ∨ modbusPduMaxSize < 2+data.length ∨
      ((WireRequest.arrival (.mei meiType data) a policy).request.off 1) 0 ≠ 0x2B#8) := by
    rw [h0]
    simp [modbusPduMaxSize]
    omega
  simp only [processPduFunction,h0,BitVec.reduceToNat] at hfunction
  rw [hlen,if_neg (by omega),mbMeiProcessRequest,if_neg hpass] at hfunction
  dsimp only at hfunction
  rw [h1,if_neg hE,if_neg hD] at hfunction
  generalize hentry : Option.bind _ _ = entry at hfunction
  cases entry with
  | none => cases hfunction
  | some entry =>
    obtain ⟨handler,context⟩ := entry
    dsimp only at hfunction
    rw [if_neg (by decide),Nat.add_sub_cancel_left,hslice] at hfunction
    generalize hresult : handler context meiType data (responseLimit 253-2) = result at hfunction
    obtain ⟨code,responseData⟩ := result
    dsimp only at hfunction
    split at hfunction
    · cases hfunction
    rename_i hcode
    split at hfunction
    · cases hfunction
    rename_i hroom
    obtain ⟨-,htail⟩ := List.cons.inj (Except.ok.inj (Prod.mk.inj hfunction).1)
    rw [not_not.mp hcode] at hresult
    have htail : tail = meiType :: responseData := htail.symm
    obtain ⟨response,haccepts,mei,hmei⟩ := accepts_mei h (by omega) htail
    exact ⟨response,haccepts,handler,context,responseData,hentry,hresult,mei,hmei⟩

/-! FC11h. -/

structure HoldsServerId (t : ServerIdState) (serverId : List Byte) (runStatus : Byte)
    (additional : List Byte) : Prop where
  configured : t.configured ≠ 0#8
  nonempty : serverId ≠ []
  status : runStatus = 0x00#8 ∨ runStatus = 0xFF#8
  count : t.byteCount = serverId.length+1+additional.length
  count_le : t.byteCount ≤ 251
  data : Stored t.data 0 (serverId ++ runStatus :: additional)

theorem configured_stored (serverId : List Byte) (runStatus : Byte) (additional : List Byte) :
    Stored (store (store (store (fun _ => 0#8) 0 serverId) serverId.length [runStatus])
      (serverId.length+1) additional) 0 (serverId ++ runStatus :: additional) := by
  have hid := slice_store (fun _ : Nat => 0#8) 0 serverId
  have hstatus := slice_store_end (store (fun _ => 0#8) 0 serverId) serverId.length [runStatus]
  have hall := slice_store_end (store (store (fun _ => 0#8) 0 serverId) serverId.length [runStatus])
    (serverId.length+1) additional
  rw [List.length_singleton] at hstatus
  rw [hstatus,hid,List.append_assoc] at hall
  simp only [Stored,List.length_append,List.length_cons]
  rw [show serverId.length+(additional.length+1) = serverId.length+1+additional.length by omega,hall]
  rfl

theorem mbrtuServerIdConfigure_holds (s : Server) (serverId : Mem Byte) (n : Nat)
    (runStatus : Byte) (additionalData : Option (Mem Byte)) (m : Nat)
    (h : (mbrtuServerIdConfigure s (some serverId) n runStatus additionalData m).1 = .ok) :
    HoldsServerId (mbrtuServerIdConfigure s (some serverId) n runStatus additionalData m).2.serverId
      (slice serverId 0 n) runStatus (additionalData.elim [] fun a => slice a 0 m) := by
  simp only [mbrtuServerIdConfigure] at h ⊢
  split_ifs at h ⊢ with hnull hlength hstatus hmost hroom
  have hextra : (additionalData.elim [] fun a => slice a 0 m).length = m := by
    cases additionalData with
    | none =>
      simp only [Option.isNone_none,and_true] at hnull
      exact (Nat.eq_zero_of_not_pos hnull).symm
    | some a => exact slice_length a 0 m
  refine ⟨show (1#8 : Byte) ≠ 0#8 by decide,?_,?_,?_,?_,?_⟩
  · intro hnil
    have := congrArg List.length hnil
    rw [slice_length,List.length_nil] at this
    omega
  · rw [not_and_or,not_not,not_not] at hstatus
    exact hstatus
  · rw [slice_length,hextra]
    rfl
  · dsimp only [Server.emit]
    omega
  · have hdata := configured_stored (slice serverId 0 n) runStatus
      (additionalData.elim [] fun a => slice a 0 m)
    rw [slice_length] at hdata
    cases additionalData with
    | none => exact hdata
    | some a => exact hdata

def ServerIdDelivered (t : ServerIdState) (request : Request) (adu : Mem Byte)
    (response : Response) : Prop :=
  ∃ serverId runStatus additional, HoldsServerId t serverId runStatus additional ∧
    ∃ server, mbrtumGetServerIdResponse request response adu = .ok server ∧
      server.serverIdLength = serverId.length ∧ Stored adu server.serverId serverId ∧
      server.runStatus = runStatus ∧ server.additionalDataLength = additional.length ∧
      server.additionalData.elim (additional = []) fun start => Stored adu start additional

theorem accepts_serverId {a : Byte} {expected : Word} {t : ServerIdState} {serverId : List Byte}
    {runStatus : Byte} {additional tail : List Byte}
    (hholds : HoldsServerId t serverId runStatus additional)
    (hlength : serverId.length = expected.toNat)
    (htail : tail = BitVec.ofNat 8 t.byteCount :: (serverId ++ runStatus :: additional)) :
    ∃ response, (WireRequest.reportServerId expected).Accepts a tail response ∧
      ServerIdDelivered t ((WireRequest.reportServerId expected).descriptor a)
        (ofList (appendCrc (a :: 0x11#8 :: tail))) response := by
  have hstored := reply_stored a 0x11#8 tail
  have hcount := hholds.count
  have hcount_le := hholds.count_le
  have hlen : tail.length+4 = 5+t.byteCount := by
    rw [htail]
    simp only [List.length_cons,List.length_append]
    omega
  nth_rewrite 2 [htail] at hstored
  generalize hadu : ofList (appendCrc (a :: 0x11#8 :: tail)) = adu at hstored ⊢
  rw [stored_cons,stored_append,stored_cons] at hstored
  obtain ⟨h2,hserverId,hrun,hadditional⟩ := hstored
  have hbytes : (adu 2).toNat = t.byteCount := by
    rw [h2,BitVec.toNat_ofNat]
    omega
  have hquantity : ((WireRequest.reportServerId expected).descriptor a).quantity.toNat =
      serverId.length := hlength.symm
  have hpositive := List.length_pos_iff.mpr hholds.nonempty
  have hstatus : adu (3+serverId.length) = 0x00#8 ∨ adu (3+serverId.length) = 0xFF#8 := by
    rw [hrun]
    exact hholds.status
  have hdecoded : mbrtumGetServerIdResponse _ ⟨0x11#8,0,some 3,t.byteCount⟩ adu = _ :=
    serverIdResponse_eq (WireRequest.descriptor_function (w := .reportServerId expected) (a := a))
      (by omega) rfl (by omega) hcount_le (by rwa [hquantity])
  rw [hquantity] at hdecoded
  refine ⟨⟨0x11#8,0,some 3,t.byteCount⟩,?_,serverId,runStatus,additional,hholds,_,hdecoded,rfl,
    hserverId,hrun,?_,?_⟩
  · rw [WireRequest.Accepts,hlen]
    simp only [checkNormalResponse,WireRequest.descriptor_function,WireRequest.function,
      BitVec.reduceToNat]
    rw [hadu,checkServerId,hquantity,hbytes,if_neg (by omega),if_neg (by omega),if_neg (by omega),
      if_neg]
    · rfl
    · rintro ⟨h0,hff⟩
      exact hstatus.elim h0 hff
  · dsimp only
    omega
  · dsimp only
    split
    · exact hadditional
    · exact List.eq_nil_of_length_eq_zero (by omega)

/-- What is configured has a run status after an identifier of the expected length. -/
def ServerIdExpected (t : ServerIdState) (expected : Word) : Prop :=
  t.configured = 0#8 ∨ ∃ serverId runStatus additional,
    HoldsServerId t serverId runStatus additional ∧ serverId.length = expected.toNat

theorem mbrtuServerIdProcessPdu_answer {s : Server} (pdu : Mem Byte) (h0 : pdu 0 = 0x11#8)
    (hcount : s.serverId.configured ≠ 0#8 → s.serverId.byteCount ≤ 251) :
    (mbrtuServerIdProcessPdu s pdu 1 253).1 = .response
      (if s.serverId.configured = 0#8 then [0x91#8,0x04#8]
      else 0x11#8 :: BitVec.ofNat 8 s.serverId.byteCount ::
        slice s.serverId.data 0 s.serverId.byteCount) := by
  rw [mbrtuServerIdProcessPdu,if_neg (by simp [h0]),if_neg (by decide),if_neg (by decide)]
  dsimp only [Server.emit]
  split
  · rfl
  · rename_i hconfigured
    have := hcount hconfigured
    rw [if_neg (by omega)]
    rfl

section ServerId
variable {cfg : Platform} {a : Byte} {s : Slave} {policy : DiagnosticsPolicy} {expected : Word}

theorem rtuStep_serverId (hawake : s.isListenOnly = false)
    (hcount : s.server.serverId.configured ≠ 0#8 → s.server.serverId.byteCount ≤ 251)
    (h : (WireRequest.reportServerId expected).WellFormed a)
    (ha : (WireRequest.reportServerId expected).answered a = true) :
    ∃ pdu after, rtuStep cfg a s (WireRequest.arrival (.reportServerId expected) a policy) =
        (.responseReady (appendCrc (a :: pdu)),after) ∧ AnswersFunction 0x11#8 pdu ∧ Fits 253 pdu ∧
      pdu = if s.server.serverId.configured = 0#8 then [0x91#8,0x04#8]
        else 0x11#8 :: BitVec.ofNat 8 s.server.serverId.byteCount ::
          slice s.server.serverId.data 0 s.server.serverId.byteCount := by
  have hheard := WireRequest.arrival_heard policy h ha
  have hunicast := WireRequest.arrival_unicast policy h ha
  have hframed := WireRequest.arrival_framed (w := .reportServerId expected) (a := a) policy
  have hfunction : (WireRequest.arrival (.reportServerId expected) a policy).request 1 = 0x11#8 :=
    hframed.function
  have hstep := rtuStep_ordinary (s := s) cfg hheard ⟨hawake,.inr (by rw [hfunction]; rfl)⟩
  have hanswer := mbrtuServerIdProcessPdu_answer
    ((WireRequest.arrival (.reportServerId expected) a policy).request.off 1) hfunction hcount
  rw [WireRequest.arrival_len,processOrdinary,if_pos hfunction,processServerId,hunicast] at hstep
  simp only [Bool.false_eq_true,if_false,Slave.heard_server] at hstep
  rw [show (WireRequest.pdu (.reportServerId expected)).length = 1 from rfl,
    show pduCapacity (WireRequest.arrival (.reportServerId expected) a policy).capacity = 253 from rfl]
    at hstep
  cases hout : mbrtuServerIdProcessPdu s.server
      ((WireRequest.arrival (.reportServerId expected) a policy).request.off 1) 1 253 with
  | mk result server =>
    rw [hout] at hanswer hstep
    dsimp only at hanswer
    generalize hpdu : ite (s.server.serverId.configured = 0#8) _ _ = pdu at hanswer ⊢
    rw [hanswer] at hstep
    dsimp only at hstep
    obtain ⟨hanswers,hleast,hmost,hfits⟩ := mbrtuServerIdProcessPdu_response s.server
      ((WireRequest.arrival (.reportServerId expected) a policy).request.off 1) 1 253 _
      (by rw [hout,hanswer])
    have hroom : 1+pdu.length+2 ≤ (WireRequest.arrival (.reportServerId expected) a policy).capacity :=
      pduCapacity_room hleast hmost
    rw [hframed.address,if_neg (Nat.not_lt.mpr hroom)] at hstep
    exact ⟨pdu,_,hstep,hanswers,⟨hleast,hmost,hmost⟩,rfl⟩

theorem exchange_serverId (hawake : s.isListenOnly = false)
    (hexpected : ServerIdExpected s.server.serverId expected)
    (h : (WireRequest.reportServerId expected).WellFormed a)
    (ha : (WireRequest.reportServerId expected).answered a = true) :
    Exchanges cfg (.reportServerId expected) a s policy fun adu response _ =>
      ServerIdDelivered s.server.serverId ((WireRequest.reportServerId expected).descriptor a) adu
        response := by
  have hcount : s.server.serverId.configured ≠ 0#8 → s.server.serverId.byteCount ≤ 251 := by
    intro hconfigured
    obtain hnone | ⟨_,_,_,hholds,-⟩ := hexpected
    · exact absurd hnone hconfigured
    · exact hholds.count_le
  obtain ⟨pdu,after,hstep,hanswers,hfits,hpdu⟩ := @rtuStep_serverId cfg a s policy expected hawake
    hcount h ha
  refine .answered h ha hstep hanswers hfits fun tail htail => ?_
  rw [htail] at hpdu
  have hconfigured : s.server.serverId.configured ≠ 0#8 := by
    intro hnone
    rw [if_pos hnone] at hpdu
    have hhead : (0x11#8 : Byte) = 0x91#8 := (List.cons.inj hpdu).1
    exact absurd hhead (by decide)
  obtain hnone | ⟨serverId,runStatus,additional,hholds,hlength⟩ := hexpected
  · exact absurd hnone hconfigured
  rw [if_neg hconfigured] at hpdu
  obtain ⟨-,rfl⟩ := List.cons.inj hpdu
  refine accepts_serverId hholds hlength ?_
  rw [hholds.data.slice_eq]
  rw [hholds.count,List.length_append,List.length_cons]
  omega

theorem holdsServerId_of_status {t : ServerIdState} {n : Nat} (hconfigured : t.configured ≠ 0#8)
    (hn : 0 < n) (hroom : n+1 ≤ t.byteCount) (hcount : t.byteCount ≤ 251)
    (hstatus : t.data n = 0x00#8 ∨ t.data n = 0xFF#8) :
    HoldsServerId t (slice t.data 0 n) (t.data n) (slice t.data (n+1) (t.byteCount-(n+1))) where
  configured := hconfigured
  nonempty := by
    intro hnil
    have := congrArg List.length hnil
    rw [slice_length,List.length_nil] at this
    omega
  status := hstatus
  count := by
    rw [slice_length,slice_length]
    omega
  count_le := hcount
  data := by
    rw [stored_append,stored_cons,slice_length,Nat.zero_add]
    exact ⟨stored_slice _ _ _,rfl,stored_slice _ _ _⟩

/-- An answer that the master accepts has shown that the expected length was right. -/
theorem exchange_serverId_expected {answer : List Byte} {response : Response}
    (hawake : s.isListenOnly = false) (hcount : s.server.serverId.byteCount ≤ 251)
    (h : (WireRequest.reportServerId expected).WellFormed a)
    (ha : (WireRequest.reportServerId expected).answered a = true)
    (hanswer : (rtuStep cfg a s (WireRequest.arrival (.reportServerId expected) a policy)).1 =
      .responseReady answer)
    (hverdict : (WireRequest.reportServerId expected).verdict a answer = (.ok,response)) :
    ServerIdExpected s.server.serverId expected := by
  obtain ⟨pdu,after,hstep,-,hfits,hpdu⟩ := @rtuStep_serverId cfg a s policy expected hawake
    (fun _ => hcount) h ha
  by_cases hconfigured : s.server.serverId.configured = 0#8
  · exact .inl hconfigured
  rw [if_neg hconfigured] at hpdu
  rw [hstep] at hanswer
  obtain rfl := RtuResult.responseReady.inj hanswer
  obtain ⟨-,hmost,-⟩ := hfits
  rw [hpdu,List.length_cons] at hmost
  rw [hpdu] at hverdict
  generalize htail : BitVec.ofNat 8 s.server.serverId.byteCount :: _ = tail at hmost hverdict
  have hstored := reply_stored a 0x11#8 tail
  have hlen : tail.length = 1+s.server.serverId.byteCount := by
    rw [← htail,List.length_cons,slice_length,Nat.add_comm]
  nth_rewrite 2 [← htail] at hstored
  have hfunction : (0x11#8 : Byte) = (WireRequest.reportServerId expected).function := rfl
  rw [hfunction,WireRequest.verdict_normal h ha (by omega) (by omega),← hfunction] at hverdict
  generalize ofList (appendCrc (a :: 0x11#8 :: tail)) = adu at hstored hverdict
  rw [stored_cons] at hstored
  obtain ⟨h2,hdata⟩ := hstored
  have hbytes : (adu 2).toNat = s.server.serverId.byteCount := by
    rw [h2,BitVec.toNat_ofNat]
    omega
  have hpositive : 0 < expected.toNat := by
    obtain ⟨-,hne,-⟩ := id h
    exact Nat.pos_of_ne_zero fun hzero => hne (BitVec.eq_of_toNat_eq hzero)
  simp only [checkNormalResponse,WireRequest.descriptor_function,WireRequest.function,
    BitVec.reduceToNat,checkServerId,hbytes] at hverdict
  rw [show ((WireRequest.reportServerId expected).descriptor a).quantity = expected from rfl]
    at hverdict
  by_cases hroom : expected.toNat+1 ≤ s.server.serverId.byteCount
  · have hread : adu (3+expected.toNat) = s.server.serverId.data expected.toNat := by
      have hget := hdata.get expected.toNat (by rw [slice_length]; omega)
      simpa [slice] using hget
    rw [if_neg (by omega),if_neg (by omega),if_neg (by omega),hread] at hverdict
    have hstatus : s.server.serverId.data expected.toNat = 0x00#8 ∨
        s.server.serverId.data expected.toNat = 0xFF#8 := by
      by_contra hno
      rw [not_or] at hno
      rw [if_pos hno] at hverdict
      cases congrArg Prod.fst hverdict
    exact .inr ⟨_,_,_,holdsServerId_of_status hconfigured hpositive hroom hcount hstatus,
      slice_length _ _ _⟩
  · rw [if_pos (by omega)] at hverdict
    cases congrArg Prod.fst hverdict

end ServerId

end ModbusStack
