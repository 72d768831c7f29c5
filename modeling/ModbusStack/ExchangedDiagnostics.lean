import ModbusStack.Exchange
import ModbusStack.SlaveRuns

/-! Exchanges of the serial-line functions 07h, 08h, 0Bh and 0Ch. -/
set_option autoImplicit false

namespace ModbusStack
open ByteMemory

section Diagnosed
variable {cfg : Platform} {w : WireRequest} {a : Byte} {s : Slave} {policy : DiagnosticsPolicy}
variable {Good : Mem Byte → Response → Slave → Prop} (h : w.WellFormed a)
  (ha : w.answered a = true) (hawake : s.isListenOnly = false) {d : Diagnostics}
include h ha hawake

theorem Exchanges.diagnosed (hd : (s.heard (w.arrival a policy)).diagnostics = some d)
    {response : List Byte} (hout : (mbrtuDiagnosticsProcessPdu policy d a
      ((w.arrival a policy).request.off 1) w.pdu.length 253).1 = .response response)
    (hbounded : d.LogBounded)
    (hgood : ∀ tail after, response = w.function :: tail → ∃ r, w.Accepts a tail r ∧
      Good (ofList (appendCrc (a :: w.function :: tail))) r after) :
    Exchanges cfg w a s policy Good := by
  have hheard := WireRequest.arrival_heard policy h ha
  have hframed := WireRequest.arrival_framed (w := w) (a := a) policy
  have hlen := RtuFrame.pduLen_bounds hheard.intact
  rw [WireRequest.arrival_len] at hlen
  have hstep := rtuStep_diagnosed cfg hheard hawake hd
  rw [WireRequest.arrival_len,processDiagnostics,hframed.address] at hstep
  obtain ⟨-,hanswers,hleast,hmost,hfits⟩ := (mbrtuDiagnosticsProcessPdu_outcome policy d a
    ((w.arrival a policy).request.off 1) w.pdu.length 253 hlen).response_spec response hout
  have hfunction : ((w.arrival a policy).request.off 1) 0 = w.function := hframed.function
  rw [hfunction] at hanswers
  have hroom : 1+response.length+2 ≤ (w.arrival a policy).capacity := pduCapacity_room hleast hmost
  rcases hresult : mbrtuDiagnosticsProcessPdu policy d a ((w.arrival a policy).request.off 1)
    w.pdu.length 253 with ⟨result,d',calls⟩
  rw [hresult] at hout
  obtain rfl : result = .response response := hout
  have hcapacity : pduCapacity (w.arrival a policy).capacity = 253 := rfl
  have hpolicy : (w.arrival a policy).policy = policy := rfl
  rw [hcapacity,hpolicy,hresult] at hstep
  dsimp only at hstep
  rw [if_neg (Nat.not_lt.mpr hroom)] at hstep
  refine .answered h ha hstep hanswers ⟨hleast,hmost,hfits hbounded⟩ fun tail htail => ?_
  exact hgood tail _ htail

theorem Exchanges.undiagnosed (hd : s.diagnostics = none)
    (hf : isDiagnosticsFunction w.function = true) : Exchanges cfg w a s policy Good := by
  have hframed := WireRequest.arrival_framed (w := w) (a := a) policy
  have h0 : ((w.arrival a policy).request.off 1) 0 = w.function := hframed.function
  have hlen : ¬ w.pdu.length = 0 := by simp [WireRequest.pdu]
  simp only [isDiagnosticsFunction,decide_eq_true_eq] at hf
  refine .handled h ha hawake (.inl hd) ?_ fun tail server after hfunction hserver => ?_
  · rcases hf with hf | hf | hf | hf <;> rw [hf] <;> decide
  · rw [processPduFunction,if_neg hlen,h0] at hfunction
    rcases hf with hf | hf | hf | hf
    all_goals
      simp only [hf,BitVec.reduceToNat] at hfunction
      cases hfunction

end Diagnosed

theorem Slave.awake_diagnostics {s : Slave} {f : RtuFrame} {d : Diagnostics}
    (hawake : s.isListenOnly = false) (hd : (s.heard f).diagnostics = some d) :
    d.isListenOnly = false := by
  have hheard := Slave.heard_isListenOnly s f
  rw [hawake,Slave.isListenOnly,hd] at hheard
  exact hheard

/-! FC07h, FC0Bh and FC0Ch. -/

structure StatusDelivered (d : Diagnostics) (f : Byte) (adu : Mem Byte) (response : Response) :
    Prop where
  exceptionStatus : f = 0x07#8 → mbrtumGetExceptionStatus response adu = .ok d.exceptionStatus
  eventCounter : f = 0x0B#8 →
    mbrtumGetCommEventCounter response adu = .ok (d.communicationStatus,d.eventCounter)
  eventLog : f = 0x0C#8 → ∃ log, mbrtumGetCommEventLog response adu = .ok log ∧
    log.communicationStatus = d.communicationStatus ∧ log.eventCount = d.eventCounter ∧
    log.messageCount = d.messageCount ∧ log.eventsLength = d.eventLogCount.toNat ∧
    ∀ i, mbrtumGetDiagnosticEvent adu log i = (d.getEvent i).elim (.error .errorIndex) .ok

def Diagnostics.statusResponse (d : Diagnostics) (f : Byte) : List Byte :=
  if f = 0x07#8 then exceptionStatusResponse d
  else if f = 0x0B#8 then commEventCounterResponse d
  else commEventLogResponse d

theorem mbrtuDiagnosticsProcessPdu_status (policy : DiagnosticsPolicy) (pdu : Mem Byte)
    {d : Diagnostics} {a f : Byte} (hawake : d.isListenOnly = false) (hbounded : d.LogBounded)
    (hf : f = 0x07#8 ∨ f = 0x0B#8 ∨ f = 0x0C#8) (h0 : pdu 0 = f) (hunicast : isBroadcast a = false) :
    (mbrtuDiagnosticsProcessPdu policy d a pdu 1 253).1 = .response (d.statusResponse f) := by
  have hlen : ¬ (1 = 0 ∨ modbusPduMaxSize < 1) := by simp [modbusPduMaxSize]
  have hlog : ¬ 253 < (commEventLogResponse d).length := by
    have := hbounded
    simp only [Diagnostics.LogBounded,eventLogCapacity] at this
    simp [commEventLogResponse]
    omega
  rw [mbrtuDiagnosticsProcessPdu,if_neg hlen,h0,hawake]
  rcases hf with rfl | rfl | rfl
  · simp [isDiagnosticsFunction,returnStatus,hunicast,Diagnostics.statusResponse,
      exceptionStatusResponse]
  · simp [isDiagnosticsFunction,returnStatus,hunicast,Diagnostics.statusResponse,
      commEventCounterResponse]
  · simp [isDiagnosticsFunction,returnStatus,hunicast,Diagnostics.statusResponse,if_neg hlog]

section Status
variable {a : Byte} {d : Diagnostics} {tail : List Byte}

theorem accepts_exceptionStatus (htail : tail = [d.exceptionStatus]) :
    ∃ response, (WireRequest.status 0x07#8).Accepts a tail response ∧
      StatusDelivered d 0x07#8 (ofList (appendCrc (a :: 0x07#8 :: tail))) response := by
  have hstored := reply_stored a 0x07#8 tail
  rw [htail] at hstored ⊢
  refine ⟨⟨0x07#8,0,some 2,1⟩,rfl,fun _ => ?_,fun hf => ?_,fun hf => ?_⟩
  · rw [exceptionStatus_eq rfl]
    exact congrArg _ (stored_cons _ _ _ _ |>.mp hstored).1
  · exact absurd hf (by decide)
  · exact absurd hf (by decide)

theorem accepts_eventCounter
    (htail : tail = writeBe16 d.communicationStatus ++ writeBe16 d.eventCounter) :
    ∃ response, (WireRequest.status 0x0B#8).Accepts a tail response ∧
      StatusDelivered d 0x0B#8 (ofList (appendCrc (a :: 0x0B#8 :: tail))) response := by
  have hstored := reply_stored a 0x0B#8 tail
  rw [htail] at hstored ⊢
  rw [stored_writeBe16,← List.append_nil (writeBe16 d.eventCounter),stored_writeBe16] at hstored
  obtain ⟨hstatus,hcounter,-⟩ := hstored
  rw [List.append_nil] at hstatus hcounter
  refine ⟨⟨0x0B#8,0,some 2,4⟩,rfl,fun hf => ?_,fun _ => ?_,fun hf => ?_⟩
  · exact absurd hf (by decide)
  · rw [commEventCounter_eq rfl,hstatus,hcounter]
  · exact absurd hf (by decide)

theorem accepts_eventLog (hbounded : d.LogBounded)
    (htail : commEventLogResponse d = 0x0C#8 :: tail) :
    ∃ response, (WireRequest.status 0x0C#8).Accepts a tail response ∧
      StatusDelivered d 0x0C#8 (ofList (appendCrc (a :: 0x0C#8 :: tail))) response := by
  have htail : tail = (6#8+d.eventLogCount) :: (writeBe16 d.communicationStatus ++
      (writeBe16 d.eventCounter ++ (writeBe16 d.messageCount ++
        (List.range d.eventLogCount.toNat).map fun i => (d.getEvent i).getD 0#8))) := by
    rw [← (List.cons.inj htail).2]
    simp
  have hstored := reply_stored a 0x0C#8 tail
  have hlen : tail.length+4 = 11+d.eventLogCount.toNat := by
    rw [htail]
    simp
    omega
  nth_rewrite 2 [htail] at hstored
  generalize hadu : ofList (appendCrc (a :: 0x0C#8 :: tail)) = adu at hstored ⊢
  simp only [stored_cons,stored_writeBe16] at hstored
  obtain ⟨h2,hstatus,hcounter,hmessages,hevents⟩ := hstored
  simp only [Diagnostics.LogBounded,eventLogCapacity] at hbounded
  have hbytes : (adu 2).toNat = 6+d.eventLogCount.toNat := by
    rw [h2,BitVec.toNat_add]
    simp
    omega
  have hleast : 6 ≤ 6+d.eventLogCount.toNat := by omega
  have hlog : mbrtumGetCommEventLog ⟨0x0C#8,0,some 3,6+d.eventLogCount.toNat⟩ adu = _ :=
    commEventLog_eq rfl hleast (by omega)
  refine ⟨⟨0x0C#8,0,some 3,6+d.eventLogCount.toNat⟩,?_,fun hf => ?_,fun hf => ?_,
    fun _ => ⟨_,hlog,hstatus,hcounter,hmessages,Nat.add_sub_cancel_left _ _,fun i => ?_⟩⟩
  · rw [WireRequest.Accepts,hlen]
    simp only [checkNormalResponse,WireRequest.descriptor_function,WireRequest.function,
      BitVec.reduceToNat]
    rw [hadu,checkCommEventLog,hbytes,if_neg (by omega),if_neg (by omega),if_neg (by omega)]
    rfl
  · exact absurd hf (by decide)
  · exact absurd hf (by decide)
  · rw [mbrtumGetDiagnosticEvent]
    dsimp only
    rw [Nat.add_sub_cancel_left]
    by_cases hi : d.eventLogCount.toNat ≤ i
    · rw [if_pos hi,Diagnostics.getEvent,if_pos hi]
      rfl
    · have hevent := hevents.get i (by simp; omega)
      rw [if_neg hi,hevent]
      simp [Diagnostics.getEvent,hi]

end Status

theorem LogBounded.heard {s : Slave} {f : RtuFrame} {d : Diagnostics}
    (hbounded : ∀ d, s.diagnostics = some d → d.LogBounded)
    (hd : (s.heard f).diagnostics = some d) : d.LogBounded := by
  cases hs : s.diagnostics with
  | none =>
    simp only [Slave.heard,Slave.note,hs] at hd
    cases hd
  | some before =>
    simp only [Slave.heard,Slave.note,hs,Option.map_some,Option.some.injEq] at hd
    rw [← hd]
    exact ((hbounded before hs).noteBusMessage _).noteServerMessage

/-! FC08h. -/

/-- The data that answer a subfunction: a word of the object, or the request's own. -/
def Diagnostics.returnedData (d : Diagnostics) (subfunction : Word) (data : List Byte) : List Byte :=
  if subfunction = 0x0002#16 then writeBe16 d.diagnosticRegister
  else if diagnosticSubfunctionReturnsValue subfunction = true then
    writeBe16 (d.counter subfunction)
  else data

def AnswersSubfunction (subfunction : Word) (data : List Byte) (out : DiagnosticsPdu) : Prop :=
  out = .response [0x88#8,exIllegalDataValue] ∨
    out = .response (0x08#8 :: (writeBe16 subfunction ++ data))

section Subfunctions
variable (policy : DiagnosticsPolicy) {d : Diagnostics} (hawake : d.isListenOnly = false)
  (word : Word)

theorem returnWord_answers (subfunction value : Word) :
    AnswersSubfunction subfunction (writeBe16 value)
      (returnWord d false subfunction value 5 word 253).1 := by
  simp only [returnWord,makeException,fixedWordResponse]
  rw [if_neg (by decide)]
  split
  · exact .inl rfl
  · exact .inr rfl

include hawake in
theorem restartCommunications_answers : AnswersSubfunction 0x0001#16 (writeBe16 word)
    (restartCommunications policy d false 5 word 253).1 := by
  simp only [restartCommunications,refuseFc08,makeException,fixedWordResponse,hawake]
  split
  · exact .inl rfl
  split
  · exact .inl rfl
  · exact .inr rfl

theorem clearCountersAndRegister_answers : AnswersSubfunction 0x000A#16 (writeBe16 word)
    (clearCountersAndRegister policy d false 5 word 253).1 := by
  simp only [clearCountersAndRegister,refuseFc08,makeException,fixedWordResponse]
  split
  · exact .inl rfl
  split
  · exact .inl rfl
  · exact .inr rfl

theorem clearOverrunCounter_answers : AnswersSubfunction 0x0014#16 (writeBe16 word)
    (clearOverrunCounter policy d false 5 word 253).1 := by
  simp only [clearOverrunCounter,refuseFc08,makeException,fixedWordResponse]
  split
  · exact .inl rfl
  split
  · exact .inl rfl
  · exact .inr rfl

end Subfunctions

theorem mbrtuDiagnosticsProcessPdu_fc08 (policy : DiagnosticsPolicy) (a : Byte) {d : Diagnostics}
    {pdu : Mem Byte} {len : Nat} (hawake : d.isListenOnly = false) (h0 : pdu 0 = 0x08#8)
    (hleast : 1 ≤ len) (hmost : len ≤ 253) :
    mbrtuDiagnosticsProcessPdu policy d a pdu len 253 = processFc08 policy d a pdu len 253 := by
  have hlen : ¬ (len = 0 ∨ modbusPduMaxSize < len) := by
    simp only [modbusPduMaxSize]
    omega
  simp [mbrtuDiagnosticsProcessPdu,hlen,h0,hawake,isDiagnosticsFunction]

theorem processFc08_answers (policy : DiagnosticsPolicy) {d : Diagnostics} {a : Byte} {pdu : Mem Byte}
    {subfunction : Word} {data : List Byte} (hawake : d.isListenOnly = false)
    (hunicast : isBroadcast a = false)
    (hsupported : diagnosticSubfunctionIsSupported subfunction = true)
    (hlisten : subfunction ≠ 0x0004#16) (hmost : data.length ≤ 250) (heven : data.length%2 = 0)
    (hshort : subfunction ≠ 0x0000#16 → data.length = 2) (h0 : pdu 0 = 0x08#8)
    (hstored : Stored pdu 1 (writeBe16 subfunction ++ data)) :
    AnswersSubfunction subfunction (d.returnedData subfunction data)
      (processFc08 policy d a pdu (3+data.length) 253).1 := by
  have hwhole : slice pdu 0 (3+data.length) = 0x08#8 :: (writeBe16 subfunction ++ data) := by
    have hpdu : Stored pdu 0 (0x08#8 :: (writeBe16 subfunction ++ data)) :=
      (stored_cons _ _ _ _).mpr ⟨h0,hstored⟩
    refine hpdu.slice_eq ?_
    simp
    omega
  obtain ⟨hsub,hdata⟩ := (stored_writeBe16 _ _ _ _).mp hstored
  have hlength : ¬ (3+data.length < 3 ∨ (3+data.length-3)%2 ≠ 0) := by omega
  have hheard : ¬ (d.isListenOnly = true ∧ subfunction ≠ 0x0001#16) := by simp [hawake]
  rw [processFc08,if_neg hlength]
  dsimp only
  rw [hsub,if_neg hheard,hunicast]
  by_cases hzero : subfunction = 0x0000#16
  · subst hzero
    have hcapacity : ¬ 253 < 3+data.length := by omega
    right
    simp only [BitVec.toNat_ofNat,Nat.zero_mod]
    rw [if_neg (by decide),if_neg hcapacity,hwhole]
    rfl
  · have htwo := hshort hzero
    have hword : data = writeBe16 (readBe16 (pdu.off 3)) := by
      obtain ⟨x,y,rfl⟩ := List.length_eq_two.mp htwo
      simp only [stored_cons] at hdata
      rw [readBe16_off,hdata.1,hdata.2.1,writeBe16_be16]
    rw [htwo,if_pos (show 5 ≤ 3+2 by omega)]
    generalize readBe16 (pdu.off 3) = word at hword
    subst hword
    have hcode : ∀ n : Nat, subfunction.toNat = n → subfunction = BitVec.ofNat 16 n := by
      intro n hn
      rw [← hn]
      simp
    split
    case h_1 hn => exact absurd (hcode _ hn) hzero
    case h_2 hn =>
      obtain rfl := hcode _ hn
      exact restartCommunications_answers policy hawake word
    case h_3 hn =>
      obtain rfl := hcode _ hn
      exact returnWord_answers word _ _
    case h_4 hn => exact absurd (hcode _ hn) hlisten
    case h_5 hn =>
      obtain rfl := hcode _ hn
      exact clearCountersAndRegister_answers policy word
    case h_14 hn =>
      obtain rfl := hcode _ hn
      exact clearOverrunCounter_answers policy word
    case h_15 =>
      simp only [diagnosticSubfunctionIsSupported] at hsupported
      cases hsupported
    all_goals
      rename_i hn
      obtain rfl := hcode _ hn
      exact returnWord_answers word _ _

section Exchange
variable {cfg : Platform} {a : Byte} {s : Slave} {policy : DiagnosticsPolicy}
  (hawake : s.isListenOnly = false) (hbounded : ∀ d, s.diagnostics = some d → d.LogBounded)
include hawake hbounded

theorem exchange_status {f : Byte} (h : (WireRequest.status f).WellFormed a)
    (ha : (WireRequest.status f).answered a = true) :
    Exchanges cfg (.status f) a s policy fun adu response _ =>
      ∃ d, (s.heard ((WireRequest.status f).arrival a policy)).diagnostics = some d ∧
        StatusDelivered d f adu response := by
  obtain ⟨-,hf⟩ := id h
  simp only [List.mem_cons,List.not_mem_nil,or_false] at hf
  have hhandled : isDiagnosticsFunction f = true := by
    simp only [isDiagnosticsFunction,decide_eq_true_eq]
    tauto
  cases hd : (s.heard ((WireRequest.status f).arrival a policy)).diagnostics with
  | none =>
    have hnone : s.diagnostics = none := by simpa [Slave.heard,Slave.note] using hd
    exact .undiagnosed h ha hawake hnone hhandled
  | some d =>
    have hlog := LogBounded.heard hbounded hd
    have hunicast : isBroadcast a = false := by
      simpa [isBroadcast,WireRequest.answered] using ha
    have hframed := WireRequest.arrival_framed (w := .status f) (a := a) policy
    have hout := mbrtuDiagnosticsProcessPdu_status policy
      (((WireRequest.status f).arrival a policy).request.off 1) (Slave.awake_diagnostics hawake hd)
      hlog hf hframed.function hunicast
    refine .diagnosed h ha hawake hd hout hlog fun tail after htail => ?_
    rcases hf with rfl | rfl | rfl
    · obtain ⟨response,haccepts,hgood⟩ := accepts_exceptionStatus (List.cons.inj htail).2.symm
      exact ⟨response,haccepts,d,rfl,hgood⟩
    · obtain ⟨response,haccepts,hgood⟩ := accepts_eventCounter (List.cons.inj htail).2.symm
      exact ⟨response,haccepts,d,rfl,hgood⟩
    · obtain ⟨response,haccepts,hgood⟩ := accepts_eventLog hlog htail
      exact ⟨response,haccepts,d,rfl,hgood⟩

def DiagnosticsDelivered (d : Diagnostics) (subfunction : Word) (data : List Byte) (adu : Mem Byte)
    (response : Response) : Prop :=
  ∃ diagnostics, mbrtumGetDiagnosticsResponse response adu = .ok diagnostics ∧
    diagnostics.subfunction = subfunction ∧
    diagnostics.dataLength = (d.returnedData subfunction data).length ∧
    Stored adu diagnostics.data (d.returnedData subfunction data) ∧
    ∀ value rest, d.returnedData subfunction data = writeBe16 value ++ rest →
      mbrtumGetDiagnosticsWord response adu = .ok (subfunction,value)

omit hawake hbounded in
theorem returnedData_spec {d : Diagnostics} {subfunction : Word} {data : List Byte}
    (h : (WireRequest.diagnostics subfunction data).WellFormed a) :
    (d.returnedData subfunction data).length = data.length ∧
      (subfunction = 0x0000#16 ∨ diagnosticSubfunctionReturnsValue subfunction = false →
        d.returnedData subfunction data = data) := by
  obtain ⟨-,-,-,-,hshort⟩ := h
  rw [Diagnostics.returnedData]
  by_cases h2 : subfunction = 0x0002#16
  · subst h2
    refine ⟨?_,fun hecho => hecho.elim (fun hz => absurd hz (by decide)) fun hv => ?_⟩
    · rw [if_pos rfl,(hshort (by decide)).1]
      rfl
    · exact absurd hv (by decide)
  by_cases hvalue : diagnosticSubfunctionReturnsValue subfunction = true
  · rw [if_neg h2,if_pos hvalue]
    have hzero : subfunction ≠ 0x0000#16 := by
      rintro rfl
      exact absurd hvalue (by decide)
    refine ⟨(hshort hzero).1.symm,fun hecho => ?_⟩
    rcases hecho with hz | hv
    · exact absurd hz hzero
    · rw [hv] at hvalue
      cases hvalue
  · rw [if_neg h2,if_neg hvalue]
    exact ⟨rfl,fun _ => rfl⟩

omit hawake hbounded in
theorem accepts_diagnostics {subfunction : Word} {data tail : List Byte} {d : Diagnostics}
    (h : (WireRequest.diagnostics subfunction data).WellFormed a)
    (htail : tail = writeBe16 subfunction ++ d.returnedData subfunction data) :
    ∃ response, (WireRequest.diagnostics subfunction data).Accepts a tail response ∧
      DiagnosticsDelivered d subfunction data (ofList (appendCrc (a :: 0x08#8 :: tail))) response := by
  obtain ⟨hlength,hecho⟩ := returnedData_spec (d := d) h
  obtain ⟨-,hmost,heven,-,hshort⟩ := h
  have hstored := reply_stored a 0x08#8 tail
  have hrequest := reply_stored a 0x08#8 (writeBe16 subfunction ++ data)
  have hlen : tail.length+4 = 6+data.length := by
    rw [htail,List.length_append,hlength,writeBe16_length]
    omega
  have hframe : (WireRequest.diagnostics subfunction data).frame a =
      a :: 0x08#8 :: (writeBe16 subfunction ++ data) := rfl
  nth_rewrite 2 [htail] at hstored
  generalize hadu : ofList (appendCrc (a :: 0x08#8 :: tail)) = adu at hstored ⊢
  rw [stored_writeBe16] at hstored hrequest
  obtain ⟨hsub,hdata⟩ := hstored
  obtain ⟨-,horiginal⟩ := hrequest
  have hleast : 2 ≤ 2+data.length := by omega
  have hdecoded : mbrtumGetDiagnosticsResponse ⟨0x08#8,0,some 2,2+data.length⟩ adu = _ :=
    diagnosticsResponse_eq rfl hleast (by omega)
  refine ⟨⟨0x08#8,0,some 2,2+data.length⟩,?_,_,hdecoded,hsub,?_,hdata,fun value rest hvalue => ?_⟩
  · rw [WireRequest.Accepts,hlen,hframe]
    simp only [checkNormalResponse,WireRequest.descriptor_function,WireRequest.function,
      BitVec.reduceToNat]
    have hstart : ((WireRequest.diagnostics subfunction data).descriptor a).startAddress =
      subfunction := rfl
    rw [hadu,checkDiagnostics,if_neg (by omega),hsub,hstart,if_neg (not_not.mpr rfl)]
    by_cases hzero : subfunction = 0x0000#16
    · have hsame : ofList (appendCrc (a :: 0x08#8 :: (writeBe16 subfunction ++ data))) = adu := by
        rw [← hadu,htail,hecho (.inl hzero)]
      have horiginalLength : (appendCrc (a :: 0x08#8 :: (writeBe16 subfunction ++ data))).length =
          6+data.length := by
        simp
        omega
      rw [if_pos hzero,hsame,horiginalLength,if_neg (by simp)]
      exact congrArg (fun n => (MasterResult.ok,(⟨0x08#8,0,some 2,n⟩ : Response)))
        (show 6+data.length-4 = 2+data.length by omega)
    · have htwo := (hshort hzero).1
      rw [if_neg hzero,if_neg (by omega),if_neg,htwo]
      · rfl
      · rintro ⟨hvalue,hdiffers⟩
        rw [hecho (.inr (by simpa using hvalue))] at hdata
        exact hdiffers ((hdata.slice_eq htwo.symm).trans (horiginal.slice_eq htwo.symm).symm)
  · dsimp only
    rw [hlength,Nat.add_sub_cancel_left]
  · have hleast : 2 ≤ data.length := by
      rw [← hlength,hvalue,List.length_append,writeBe16_length]
      omega
    rw [hvalue,stored_writeBe16] at hdata
    rw [mbrtumGetDiagnosticsWord,hdecoded]
    dsimp only
    rw [if_neg (by omega),hsub,hdata.1]

theorem exchange_diagnostics {subfunction : Word} {data : List Byte}
    (h : (WireRequest.diagnostics subfunction data).WellFormed a)
    (ha : (WireRequest.diagnostics subfunction data).answered a = true) :
    Exchanges cfg (.diagnostics subfunction data) a s policy fun adu response _ =>
      ∃ d, (s.heard ((WireRequest.diagnostics subfunction data).arrival a policy)).diagnostics =
          some d ∧ DiagnosticsDelivered d subfunction data adu response := by
  cases hd : (s.heard ((WireRequest.diagnostics subfunction data).arrival a policy)).diagnostics with
  | none =>
    have hnone : s.diagnostics = none := by simpa [Slave.heard,Slave.note] using hd
    exact .undiagnosed h ha hawake hnone rfl
  | some d =>
    have hanswered := of_decide_eq_true ha
    have hunicast : isBroadcast a = false := by
      simpa [isBroadcast] using hanswered.1
    have hlistening := Slave.awake_diagnostics hawake hd
    obtain ⟨hsupported,hmost,heven,-,hshort⟩ := id h
    have hpdu := WireRequest.arrival_pdu (w := .diagnostics subfunction data) (a := a) policy
    simp only [WireRequest.pdu,WireRequest.body,WireRequest.function] at hpdu
    obtain ⟨h0,hbody⟩ := (stored_cons _ _ _ _).mp hpdu
    have hlen : (WireRequest.diagnostics subfunction data).pdu.length = 3+data.length := by
      simp [WireRequest.pdu,WireRequest.body]
      omega
    have hanswers := processFc08_answers policy hlistening hunicast hsupported hanswered.2 hmost heven
      (fun hz => (hshort hz).1) h0 hbody
    rw [← mbrtuDiagnosticsProcessPdu_fc08 policy _ hlistening h0 (by omega) (by omega),← hlen]
      at hanswers
    rcases hanswers with hout | hout
    · refine .diagnosed h ha hawake hd hout (LogBounded.heard hbounded hd) fun tail after htail => ?_
      have hhead : (0x88#8 : Byte) = 0x08#8 := (List.cons.inj htail).1
      exact absurd hhead (by decide)
    · refine .diagnosed h ha hawake hd hout (LogBounded.heard hbounded hd) fun tail after htail => ?_
      obtain ⟨response,haccepts,hgood⟩ := accepts_diagnostics h (List.cons.inj htail).2.symm
      exact ⟨response,haccepts,d,rfl,hgood⟩

end Exchange

end ModbusStack
