import ModbusStack.InBounds
import ModbusStack.SlaveRuns

/-! Well-formed responses at every layer, and nothing read or written outside the buffers. -/
set_option autoImplicit false

namespace ModbusStack
open ByteMemory Machine

/-! The serial entry point reads nothing past the frame. -/

section Reads
variable (cfg : Platform) {m m' : Mem Byte} {len : Nat} (capacity : Nat) (h : AgreeUpTo len m m')
include h

theorem processFc08_congr (policy : DiagnosticsPolicy) (d : Diagnostics) (address : Byte) :
    processFc08 policy d address m len capacity = processFc08 policy d address m' len capacity := by
  by_cases h3 : len < 3
  · simp only [processFc08,h3,true_or,if_true]
  · by_cases h5 : 5 ≤ len
    · simp only [processFc08,h.readBe16_eq 1 (by omega),h.readBe16_eq 3 (by omega),
        h.slice_eq 0 len (by omega)]
    · simp only [processFc08,h.readBe16_eq 1 (by omega),h5,if_false,h.slice_eq 0 len (by omega)]

theorem mbrtuDiagnosticsProcessPdu_congr (policy : DiagnosticsPolicy) (d : Diagnostics)
    (address : Byte) :
    mbrtuDiagnosticsProcessPdu policy d address m len capacity =
      mbrtuDiagnosticsProcessPdu policy d address m' len capacity := by
  by_cases h0 : len = 0
  · simp only [mbrtuDiagnosticsProcessPdu,h0,true_or,if_true]
  by_cases h3 : 3 ≤ len
  · simp only [mbrtuDiagnosticsProcessPdu,h 0 (by omega),h.readBe16_eq 1 (by omega),
      processFc08_congr capacity h]
  · simp only [mbrtuDiagnosticsProcessPdu,h 0 (by omega),h3,false_and,and_false,
      processFc08_congr capacity h]

theorem mbrtuServerIdProcessPdu_congr (s : Server) :
    mbrtuServerIdProcessPdu s m len capacity = mbrtuServerIdProcessPdu s m' len capacity := by
  by_cases h0 : len = 0
  · simp only [mbrtuServerIdProcessPdu,h0,true_or,if_true]
  · simp only [mbrtuServerIdProcessPdu,h 0 (by omega)]

theorem mbrtuProcessAduWithDiagnostics_congr (s : Slave) (slaveAddress : Byte)
    (policy : DiagnosticsPolicy) :
    mbrtuProcessAduWithDiagnostics cfg s m slaveAddress policy len capacity =
      mbrtuProcessAduWithDiagnostics cfg s m' slaveAddress policy len capacity := by
  by_cases h0 : len = 0
  · simp only [mbrtuProcessAduWithDiagnostics,h0]
    rfl
  by_cases h4 : len < 4 ∨ 256 < len
  · simp only [mbrtuProcessAduWithDiagnostics,h4,if_true,h 0 (by omega)]
  -- all that the branches read lies in the PDU, which ends three bytes before the end
  have hpdu : AgreeUpTo (len-3) (m.off 1) (m'.off 1) := h.off 1 (len-3) (by omega)
  have hcrc : crcMatches m len = crcMatches m' len := by
    have hread : readCrcLe (m.off (len-2)) = readCrcLe (m'.off (len-2)) := by
      simp only [readCrcLe,Mem.off_apply]
      rw [h (len-2+1) (by omega),h (len-2+0) (by omega)]
    simp only [crcMatches,hread,mbCrc16_congr (len-2) fun i hi => h i (by omega)]
  have hcandidate : isRestartCandidate m (len-3) = isRestartCandidate m' (len-3) := by
    by_cases h5 : 5 ≤ len-3
    · simp only [isRestartCandidate,h 1 (by omega),h 2 (by omega),h 3 (by omega)]
    · simp only [isRestartCandidate,h5,false_and]
  have hself : selfAccounted m (len-3) = selfAccounted m' (len-3) := by
    by_cases h3 : 3 ≤ len-3
    · simp only [selfAccounted,h 1 (by omega),h 2 (by omega),h 3 (by omega)]
    · simp only [selfAccounted,h3,false_and,and_false]
  simp only [mbrtuProcessAduWithDiagnostics,processAddressed,processDiagnostics,processOrdinary,
    processServerId,processBroadcast,processUnicast,hcrc,hcandidate,hself,h 0 (by omega),
    h 1 (by omega),mbrtuDiagnosticsProcessPdu_congr _ hpdu,mbrtuServerIdProcessPdu_congr _ hpdu,
    mbProcessPdu_congr cfg _ _ hpdu]

end Reads

/-! The responses. -/

theorem DiagnosticsOutcome.error_spec {policy : DiagnosticsPolicy} {d : Diagnostics} {address : Byte}
    {pdu : Mem Byte} {len capacity : Nat} {out : DiagnosticsStep}
    (h : DiagnosticsOutcome policy d address pdu len capacity out) (hd : d.LogBounded)
    (he : out.1 = .error) : capacity < modbusPduMaxSize := by
  simp only [modbusPduMaxSize]
  cases h with
  | notHandled _ => cases he
  | unheard _ _ _ => cases he
  | ignored _ _ _ => cases he
  | unanswered _ _ _ _ => cases he
  | refused code _ _ _ _ =>
    simp only [makeException] at he
    split at he
    · omega
    · cases he
  | returned r _ _ _ _ _ hmax _ =>
    have hr := hmax hd
    simp only [modbusPduMaxSize] at hr
    simp only at he
    split at he
    · omega
    · cases he
  | approved action data _ _ _ =>
    simp only [approvedStep] at he
    split at he
    · split at he
      · omega
      · cases he
    · cases he

def RtuResult.response : RtuResult → List Byte
  | .responseReady adu => adu
  | _ => []

def StaysWithin (capacity : Nat) (response : List Byte) : Prop :=
  ∀ (buffer : Mem Byte) (i : Nat), capacity ≤ i → store buffer 0 response i = buffer i

theorem StaysWithin.of_length {capacity : Nat} {response : List Byte}
    (h : response.length ≤ capacity) : StaysWithin capacity response := by
  intro buffer i hi
  exact store_above buffer 0 response i (by omega)

structure SerialResponse (slaveAddress : Byte) (f : RtuFrame) (adu : List Byte) : Prop where
  minimum : 5 ≤ adu.length
  maximum : adu.length ≤ min f.capacity 256
  frame : ∃ pdu, adu = appendCrc (slaveAddress :: pdu) ∧ AnswersFunction (f.request 1) pdu
  crc : crcMatches (ofList adu) adu.length = true
  within : StaysWithin f.capacity adu

theorem SerialResponse.of_pdu {slaveAddress : Byte} {f : RtuFrame} {pdu : List Byte}
    (hh : Heard slaveAddress f) (hb : isBroadcast (f.request 0) = false)
    (ha : AnswersFunction (f.request 1) pdu) (hmin : 2 ≤ pdu.length)
    (hmax : pdu.length ≤ modbusPduMaxSize) (hroom : 1+pdu.length+2 ≤ f.capacity) :
    SerialResponse slaveAddress f (appendCrc (f.request 0 :: pdu)) := by
  have haddress : f.request 0 = slaveAddress := by
    have h := hh.addressed
    simp only [RtuFrame.isAddressed,decide_eq_true_eq] at h
    simp only [isBroadcast,decide_eq_false_iff_not] at hb
    tauto
  have hlen : (appendCrc (f.request 0 :: pdu)).length = pdu.length+3 := by simp
  simp only [modbusPduMaxSize] at hmax
  exact ⟨by omega,by omega,⟨pdu,by rw [haddress],ha⟩,crcMatches_appendCrc _,.of_length (by omega)⟩

theorem rtuStep_response (cfg : Platform) (slaveAddress : Byte) (s : Slave) (f : RtuFrame)
    (hs : s.Sound) :
    (∀ adu, (rtuStep cfg slaveAddress s f).1 = .responseReady adu →
      SerialResponse slaveAddress f adu) ∧
    (256 ≤ f.capacity → 1 ≤ slaveAddress.toNat → slaveAddress.toNat ≤ 247 →
      (rtuStep cfg slaveAddress s f).1 = .noResponse ∨
        ∃ adu, (rtuStep cfg slaveAddress s f).1 = .responseReady adu) := by
  have ho := rtuStep_outcome cfg slaveAddress s f
  generalize rtuStep cfg slaveAddress s f = out at ho
  have hlog := (hs.heard f).eventLog
  have hroom : 256 ≤ f.capacity → pduCapacity f.capacity = f.capacity-3 := by
    intro h
    exact if_pos (by omega)
  cases ho with
  | badSlaveAddress h => exact ⟨fun adu h => (by cases h),fun _ h1 h2 => by omega⟩
  | empty _ => exact ⟨fun adu h => (by cases h),fun _ _ _ => .inl rfl⟩
  | damaged _ _ => exact ⟨fun adu h => (by cases h),fun _ _ _ => .inl rfl⟩
  | foreign _ _ => exact ⟨fun adu h => (by cases h),fun _ _ _ => .inl rfl⟩
  | unheard _ _ _ => exact ⟨fun adu h => (by cases h),fun _ _ _ => .inl rfl⟩
  | diagnosedSilently d d' calls _ hd => exact ⟨fun adu h => (by cases h),fun _ _ _ => .inl rfl⟩
  | diagnosticsFailed d d' calls _ hd =>
    refine ⟨fun adu h => (by cases h),fun hc _ _ => ?_⟩
    have he := hd.2.2.error_spec (hlog d hd.1) rfl
    rw [hroom hc,modbusPduMaxSize] at he
    omega
  | diagnosticsAnswered d d' calls response hh hd =>
    obtain ⟨hb,ha,hmin,hcap,hmax⟩ := hd.2.2.response_spec response rfl
    refine ⟨fun adu h => ?_,fun _ _ _ => .inr ⟨_,rfl⟩⟩
    cases h
    exact .of_pdu hh hb ha hmin (hmax (hlog d hd.1)) (pduCapacity_room hmin hcap)
  | serverIdAnswered response server hh _ hb h11 hp hfits =>
    obtain ⟨ha,hmin,-,hmax⟩ := mbrtuServerIdProcessPdu_response s.server (f.request.off 1) (f.len-3)
      (pduCapacity f.capacity) response (by rw [hp])
    refine ⟨fun adu h => ?_,fun _ _ _ => .inr ⟨_,rfl⟩⟩
    cases h
    exact .of_pdu hh hb (h11.symm ▸ ha) hmin (hmax hs.serverId) hfits
  | serverIdCapacity server _ _ _ _ hp =>
    refine ⟨fun adu h => (by cases h),fun hc _ _ => ?_⟩
    have hid := hs.serverId
    simp only [mbrtuServerIdProcessPdu,hroom hc] at hp
    repeat' split at hp
    all_goals first
      | (cases hp; done)
      | (simp only [Server.emit_serverId] at *; omega)
  | broadcastIgnored _ _ _ _ => exact ⟨fun adu h => (by cases h),fun _ _ _ => .inl rfl⟩
  | broadcastWritten _ _ _ _ _ _ _ => exact ⟨fun adu h => (by cases h),fun _ _ _ => .inl rfl⟩
  | noRoom _ _ _ _ hc => exact ⟨fun adu h => (by cases h),fun hc' _ _ => by omega⟩
  | answered response server hh _ hb _ hc hp =>
    obtain ⟨r,hr,hfits,ha⟩ := mbProcessPdu_answers cfg s.server (f.request.off 1) (f.len-3)
      (f.capacity-3) (RtuFrame.pduLen_bounds hh.intact) (by omega)
    rw [hp] at hr
    cases hr
    refine ⟨fun adu h => ?_,fun _ _ _ => .inr ⟨_,rfl⟩⟩
    cases h
    have hcap := hfits.2.1
    exact .of_pdu hh hb ha hfits.1 hfits.2.2 (by omega)

structure TcpResponse (request : Mem Byte) (capacity : Nat) (adu : List Byte) : Prop where
  minimum : 9 ≤ adu.length
  maximum : adu.length ≤ min capacity 260
  header : slice (ofList adu) 0 4 = slice request 0 4 ∧ ofList adu 6 = request 6
  pdu : ∃ pdu, adu.drop 7 = pdu ∧ AnswersFunction (request 7) pdu ∧
    (readBe16 ((ofList adu).off 4)).toNat = 1+pdu.length
  within : StaysWithin capacity adu

theorem mbtcpProcessAdu_response (cfg : Platform) (s : Server) (request : Mem Byte)
    (len capacity : Nat) (adu : List Byte)
    (h : (mbtcpProcessAdu cfg s request len capacity).1 = .ok adu) :
    TcpResponse request capacity adu := by
  simp only [mbtcpProcessAdu] at h
  split at h
  · cases h
  split at h
  · cases h
  split at h
  · cases h
  split at h
  · cases h
  rename_i hsize _ _ hcap
  obtain ⟨r,hr,⟨hmin,hfit,hmax⟩,ha⟩ := mbProcessPdu_answers cfg s (request.off 7) (len-7)
    (capacity-7) ⟨by omega,by simp only [modbusPduMaxSize]; omega⟩ (by omega)
  split at h
  · cases h
  rename_i response s' hp
  rw [hp] at hr
  cases hr
  cases h
  simp only [modbusPduMaxSize] at hmax
  have hlen : (slice request 0 4 ++ writeBe16 (BitVec.ofNat 16 (1+r.length)) ++ [request 6] ++
      r).length = 7+r.length := by
    simp
    omega
  refine ⟨by omega,by omega,⟨?_,rfl⟩,⟨r,rfl,ha,?_⟩,.of_length (by omega)⟩
  · rfl
  · have hread : readBe16 ((ofList (slice request 0 4 ++ writeBe16 (BitVec.ofNat 16 (1+r.length)) ++
        [request 6] ++ r)).off 4) = be16 (hiByte (BitVec.ofNat 16 (1+r.length)))
          (loByte (BitVec.ofNat 16 (1+r.length))) := rfl
    rw [hread,be16_bytes,BitVec.toNat_ofNat]
    omega

structure WellFormedResponses (cfg : Platform) : Prop where
  pdu : ∀ (s : Server) (pdu : Mem Byte) (len capacity : Nat), 1 ≤ len → len ≤ 253 → 2 ≤ capacity →
    ∃ r, (mbProcessPdu cfg s pdu len capacity).1 = .ok r ∧ 2 ≤ r.length ∧
      r.length ≤ min capacity 253 ∧ AnswersFunction (pdu 0) r ∧ StaysWithin capacity r
  rtu : ∀ (slaveAddress : Byte) (data : DataModel) (hasDiagnostics : Bool)
    (inputs : List SlaveInput),
    ∀ r ∈ records (slaveStep cfg slaveAddress) (.initial data hasDiagnostics) inputs,
      ∀ f, r.input = .frame f →
        (r.output.isReady = true → SerialResponse slaveAddress f r.output.response) ∧
        (r.output.isReady = false → r.output.response = []) ∧
        (256 ≤ f.capacity → 1 ≤ slaveAddress.toNat → slaveAddress.toNat ≤ 247 →
          r.output = .noResponse ∨ r.output.isReady = true)
  tcp : ∀ (s : Server) (request : Mem Byte) (len capacity : Nat) (adu : List Byte),
    (mbtcpProcessAdu cfg s request len capacity).1 = .ok adu → TcpResponse request capacity adu
  reads : ∀ (m m' : Mem Byte) (len capacity : Nat), (∀ i, i < len → m i = m' i) →
    (∀ s, mbProcessPdu cfg s m len capacity = mbProcessPdu cfg s m' len capacity) ∧
    (∀ s slaveAddress policy,
      mbrtuProcessAduWithDiagnostics cfg s m slaveAddress policy len capacity =
        mbrtuProcessAduWithDiagnostics cfg s m' slaveAddress policy len capacity) ∧
    ∀ s, mbtcpProcessAdu cfg s m len capacity = mbtcpProcessAdu cfg s m' len capacity

theorem RtuResult.ready_eq {r : RtuResult} (h : r.isReady = true) : r = .responseReady r.response := by
  cases r with
  | responseReady adu => rfl
  | _ => cases h

theorem responses_wellFormed (cfg : Platform) : WellFormedResponses cfg where
  pdu := by
    intro s pdu len capacity h1 h2 hc
    obtain ⟨r,hr,⟨hmin,hfit,hmax⟩,ha⟩ := mbProcessPdu_answers cfg s pdu len capacity ⟨h1,h2⟩ hc
    exact ⟨r,hr,hmin,le_min hfit hmax,ha,.of_length hfit⟩
  rtu := by
    intro slaveAddress data hasDiagnostics inputs r hr f hf
    obtain ⟨ys,_,-,hbefore,hstep⟩ := mem_records hr
    have hs := slaveRun_sound cfg slaveAddress data hasDiagnostics ys
    rw [← hbefore] at hs
    obtain ⟨hready,hnever⟩ := rtuStep_response cfg slaveAddress r.before f hs
    have hout : r.output = (rtuStep cfg slaveAddress r.before f).1 := by
      rw [hf] at hstep
      exact congrArg Prod.fst hstep
    rw [← hout] at hready hnever
    refine ⟨fun h => hready _ (RtuResult.ready_eq h),fun h => ?_,fun hc h1 h2 => ?_⟩
    · cases ho : r.output with
      | responseReady adu => rw [ho] at h; cases h
      | _ => rfl
    · rcases hnever hc h1 h2 with h | ⟨adu,h⟩
      · exact .inl h
      · exact .inr (by rw [h]; rfl)
  tcp := mbtcpProcessAdu_response cfg
  reads := by
    intro m m' len capacity h
    exact ⟨fun s => mbProcessPdu_congr cfg s capacity h,
      fun s slaveAddress policy =>
        mbrtuProcessAduWithDiagnostics_congr cfg capacity h s slaveAddress policy,
      fun s => mbtcpProcessAdu_congr cfg s capacity h⟩

end ModbusStack
